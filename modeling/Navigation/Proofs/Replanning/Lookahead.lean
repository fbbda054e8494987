import Mathlib.Combinatorics.SimpleGraph.Metric

namespace Navigation.Replanning

open SimpleGraph

variable {V : Type*} {G : SimpleGraph V} {goal : V} {g g' : V → ℕ∞} {c d u : V}

open scoped Classical in
noncomputable def ahead (G : SimpleGraph V) (goal : V) (g : V → ℕ∞) (c : V) : ℕ∞ :=
  if c = goal then 0 else ⨅ d, ⨅ _ : G.Adj c d, g d + 1

@[simp] lemma ahead_goal : ahead G goal g goal = 0 := if_pos rfl

lemma ahead_le (h : G.Adj c d) : ahead G goal g c ≤ g d + 1 := by
  rw [ahead]
  split
  · exact zero_le
  · exact iInf₂_le d h

lemma exists_ahead_eq (hne : c ≠ goal) (h : ahead G goal g c ≠ ⊤) :
    ∃ d, G.Adj c d ∧ ahead G goal g c = g d + 1 := by
  have he : ahead G goal g c = sInf {x | ∃ d, G.Adj c d ∧ x = g d + 1} := by
    rw [ahead, if_neg hne]
    refine le_antisymm (le_sInf ?_) (le_iInf₂ fun d hd => sInf_le ⟨d, hd, rfl⟩)
    rintro _ ⟨d, hd, rfl⟩
    exact iInf₂_le d hd
  rw [he] at h ⊢
  have hs : {x : ℕ∞ | ∃ d, G.Adj c d ∧ x = g d + 1}.Nonempty :=
    Set.nonempty_iff_ne_empty.mpr fun hs => h (by rw [hs, sInf_empty])
  exact csInf_mem hs

lemma ahead_eq_top (hc : ∀ d, ¬ G.Adj c d) (hne : c ≠ goal) : ahead G goal g c = ⊤ := by
  by_contra h
  obtain ⟨d, hd, -⟩ := exists_ahead_eq hne h
  exact hc d hd

lemma ahead_congr (h : ∀ d, G.Adj c d → g d = g' d) : ahead G goal g c = ahead G goal g' c := by
  unfold ahead
  split
  · rfl
  · exact iInf_congr fun d => iInf_congr fun hd => by rw [h d hd]

lemma ahead_congr_graph {G' : SimpleGraph V} (h : ∀ d, G.Adj c d ↔ G'.Adj c d) :
    ahead G goal g c = ahead G' goal g c := by
  unfold ahead
  split
  · rfl
  · exact iInf_congr fun d => iInf_congr_Prop (h d) fun _ => rfl

lemma ahead_le_of_lt {m : ℕ∞} (hg : ∀ d, d ≠ u → g d = g' d) (hu : m ≤ g u)
    (h : ahead G goal g c < m + 1) : ahead G goal g' c ≤ ahead G goal g c := by
  by_cases hc : c = goal
  · rw [hc, ahead_goal]
    exact zero_le
  obtain ⟨d, hd, he⟩ := exists_ahead_eq hc h.ne_top
  have hdu : d ≠ u := by
    rintro rfl
    rw [he] at h
    exact h.not_ge (add_le_add_left hu 1)
  rw [he, hg d hdu]
  exact ahead_le hd

lemma ahead_eq_or_le {m : ℕ∞} (hg : ∀ d, d ≠ u → g d = g' d) (hu : m ≤ g u) (hu' : m ≤ g' u) :
    ahead G goal g' c = ahead G goal g c ∨
      m + 1 ≤ ahead G goal g c ∧ m + 1 ≤ ahead G goal g' c := by
  have hle : ahead G goal g c < m + 1 → ahead G goal g' c ≤ ahead G goal g c := ahead_le_of_lt hg hu
  have hge : ahead G goal g' c < m + 1 → ahead G goal g c ≤ ahead G goal g' c :=
    ahead_le_of_lt (fun d hd => (hg d hd).symm) hu'
  rcases lt_or_ge (ahead G goal g c) (m + 1) with h | h
  · exact Or.inl (le_antisymm (hle h) (hge ((hle h).trans_lt h)))
  · rcases lt_or_ge (ahead G goal g' c) (m + 1) with h' | h'
    · exact absurd ((hge h').trans_lt h') h.not_gt
    · exact Or.inr ⟨h, h'⟩

/-- Below `bound`, counting the way `off` from some vertex, estimates agree with their lookahead. -/
structure Quiet (G : SimpleGraph V) (goal : V) (g : V → ℕ∞) (off : V → ℕ) (bound : ℕ∞) : Prop where
  step : ∀ c d, G.Adj c d → off d ≤ off c + 1
  settled : ∀ d, min (g d) (ahead G goal g d) + off d ≤ bound →
    min (g d) (ahead G goal g d) < bound → g d = ahead G goal g d

namespace Quiet

variable {off : V → ℕ} {bound : ℕ∞}

lemma eq_ahead (h : Quiet G goal g off bound) {n m : ℕ} (hn : min (g d) (ahead G goal g d) ≤ n)
    (hb : (m : ℕ∞) ≤ bound) (hm : n + off d ≤ m) (hlt : n < m) : g d = ahead G goal g d := by
  refine h.settled d ?_ (hn.trans_lt ((Nat.cast_lt.mpr hlt).trans_le hb))
  calc min (g d) (ahead G goal g d) + off d ≤ n + off d := add_le_add_left hn _
    _ = (n + off d : ℕ) := (Nat.cast_add _ _).symm
    _ ≤ bound := (Nat.cast_le.mpr hm).trans hb

lemma ahead_le_length (h : Quiet G goal g off bound) (p : G.Walk c goal) {k : ℕ} (hk : off c ≤ k)
    (hp : (p.length + k : ℕ) ≤ bound) : ahead G goal g c ≤ p.length := by
  induction p generalizing k with
  | nil =>
    rw [ahead_goal]
    exact zero_le
  | @cons c d goal hadj q ih =>
    have hlen : q.length + (k + 1) = (Walk.cons hadj q).length + k := by
      rw [Walk.length_cons]
      omega
    have hoff : off d ≤ k + 1 := (h.step c d hadj).trans (Nat.add_le_add_right hk 1)
    have hle := ih h hoff (by rwa [hlen])
    have hd : g d = ahead G goal g d :=
      h.eq_ahead ((min_le_right _ _).trans hle) hp (by omega) (by omega)
    calc ahead G goal g c ≤ g d + 1 := ahead_le hadj
      _ ≤ q.length + 1 := by
        rw [hd]
        exact add_le_add_left hle 1
      _ = (Walk.cons hadj q).length := by
        rw [Walk.length_cons, Nat.cast_add, Nat.cast_one]

lemma ahead_le_edist (h : Quiet G goal g off bound) {k : ℕ} (hk : off c ≤ k)
    (hb : G.edist c goal + k ≤ bound) : ahead G goal g c ≤ G.edist c goal := by
  by_cases htop : G.edist c goal = ⊤
  · rw [htop]
    exact le_top
  obtain ⟨p, hp⟩ := exists_walk_of_edist_ne_top htop
  rw [← hp] at hb ⊢
  exact h.ahead_le_length p hk (by rwa [Nat.cast_add])

lemma edist_le (h : Quiet G goal g off bound) {n : ℕ} (hn : ahead G goal g c = n)
    (hb : (n + off c : ℕ) ≤ bound) : G.edist c goal ≤ n := by
  induction n generalizing c with
  | zero =>
    by_cases hc : c = goal
    · rw [hc, edist_self]
      exact zero_le
    · obtain ⟨d, -, hd⟩ := exists_ahead_eq hc (by rw [hn]; exact ENat.natCast_ne_top 0)
      rw [hn] at hd
      exact ((add_pos_of_right zero_lt_one (g d)).ne hd).elim
  | succ n ih =>
    have hc : c ≠ goal := by
      rintro rfl
      rw [ahead_goal] at hn
      exact Nat.succ_ne_zero n (Nat.cast_injective hn.symm)
    -- the neighbour that gives the lookahead is one closer to the goal, and the bound covers it too
    obtain ⟨d, hadj, hd⟩ := exists_ahead_eq hc (by rw [hn]; exact ENat.natCast_ne_top _)
    have hgd : g d = n := by
      rw [hn, Nat.cast_add, Nat.cast_one] at hd
      exact (ENat.add_left_injective_of_ne_top ENat.one_ne_top hd).symm
    have hstep := h.step c d hadj
    have hle : (n + off d : ℕ) ≤ bound := (Nat.cast_le.mpr (by omega)).trans hb
    have heq : g d = ahead G goal g d :=
      h.eq_ahead ((min_le_left _ _).trans hgd.le) hb (by omega) (by omega)
    have hdist := ih (heq.symm.trans hgd) hle
    calc G.edist c goal ≤ G.edist c d + G.edist d goal := SimpleGraph.edist_triangle
      _ ≤ 1 + n := add_le_add (edist_eq_one_iff_adj.mpr hadj).le hdist
      _ = (n + 1 : ℕ) := by
        rw [add_comm, Nat.cast_add, Nat.cast_one]

lemma ahead_eq_edist (h : Quiet G goal g off (ahead G goal g c)) (hc : off c = 0) :
    ahead G goal g c = G.edist c goal := by
  refine le_antisymm (not_lt.mp fun hlt => ?_) ?_
  · have hle := h.ahead_le_edist hc.le (by rw [Nat.cast_zero, add_zero]; exact hlt.le)
    exact hlt.not_ge hle
  · by_cases htop : ahead G goal g c = ⊤
    · rw [htop]
      exact le_top
    · obtain ⟨n, hn⟩ := ENat.ne_top_iff_exists.mp htop
      rw [← hn]
      exact h.edist_le hn.symm (by rw [hc, ← hn, add_zero])

lemma eq_edist (h : Quiet G goal g off bound) {k : ℕ} (hk : off c ≤ k)
    (hb : G.edist c goal + k ≤ bound) (htop : bound ≠ ⊤) (hpos : 0 < k) : g c = G.edist c goal := by
  have hne : G.edist c goal ≠ ⊤ := fun he => htop (by rwa [he, top_add, top_le_iff] at hb)
  obtain ⟨n, hn⟩ := ENat.ne_top_iff_exists.mp hne
  have hle := h.ahead_le_edist hk hb
  rw [← hn] at hb hle ⊢
  rw [← Nat.cast_add] at hb
  have heq : g c = ahead G goal g c :=
    h.eq_ahead ((min_le_right _ _).trans hle) hb (by omega) (by omega)
  obtain ⟨m, hm⟩ := ENat.ne_top_iff_exists.mp (ne_top_of_le_ne_top (ENat.natCast_ne_top n) hle)
  rw [heq]
  refine le_antisymm hle (hn.trans_le ?_)
  rw [← hm] at hle ⊢
  have hmn := Nat.cast_le.mp hle
  exact h.edist_le hm.symm ((Nat.cast_le.mpr (by omega)).trans hb)

lemma edist_le_of_adj (h : Quiet G goal g off bound) {k m : ℕ} (hadj : G.Adj c d) (hk : off c ≤ k)
    (hd : g d = m) (hb : (m + 1 + k : ℕ) ≤ bound) : G.edist d goal ≤ g d := by
  have hoff := h.step c d hadj
  have hle : (m + off d : ℕ) ≤ bound := (Nat.cast_le.mpr (by omega)).trans hb
  have heq : g d = ahead G goal g d :=
    h.eq_ahead ((min_le_left _ _).trans hd.le) hb (by omega) (by omega)
  rw [hd]
  exact h.edist_le (heq.symm.trans hd) hle

end Quiet

end Navigation.Replanning
