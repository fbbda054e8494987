import Navigation.Proofs.Grid.Roads
import Navigation.Proofs.Number.Cost
import Navigation.Proofs.Sorted
import Navigation.Search.BestFirst

/-! Best-first search over straight moves, with the Manhattan distance times a whole number as the estimate. -/

namespace Navigation.Search

variable {width height : ℕ} {blocked : Table height width Bool} {start goal c d u v : Cell width height}
  {weight n m : ℕ} {P : Set (Cell width height)} {a b : Node width height}

lemma Node.compare_eq_gt (h : compare a b = .gt) : b.total.rank ≤ a.total.rank := by
  rcases Ordering.then_eq_gt.mp h with h | ⟨h, -⟩
  · rcases Ordering.then_eq_gt.mp h with h | ⟨h, -⟩
    · exact (Nat.compare_eq_gt.mp h).le
    · exact (Nat.compare_eq_eq.mp h).ge
  · exact (Nat.compare_eq_eq.mp (Ordering.then_eq_eq.mp h).1).ge

lemma Node.compare_ne_gt (h : compare a b ≠ .gt) : a.total.rank ≤ b.total.rank := by
  refine not_lt.mp fun hlt => h ?_
  exact Ordering.then_eq_gt.mpr (Or.inl (Ordering.then_eq_gt.mpr (Or.inl (Nat.compare_eq_gt.mpr hlt))))

def toGoal (weight : ℕ) (goal c : Cell width height) : ℕ := weight * c.toPoint.manhattan goal.toPoint

def Node.whole (weight : ℕ) (goal : Cell width height) (n : ℕ) (c : Cell width height) :
    Node width height :=
  .of (Float.ofNat n) (Float.ofNat (toGoal weight goal c)) c

def Room (width height weight : ℕ) : Prop := width * height + weight * (width + height) < 2 ^ 53

lemma Room.size_lt (h : Room width height weight) : width * height < 2 ^ 53 := by
  unfold Room at h
  omega

lemma Room.manhattan_lt (h : Room width height weight) (c d : Cell width height) :
    c.toPoint.manhattan d.toPoint < 2 ^ 53 := by
  have hlt := c.manhattan_lt d
  have hx := Nat.zero_lt_of_lt c.inside.1
  have hy := Nat.zero_lt_of_lt c.inside.2
  have hsize := h.size_lt
  have hadd : width + height ≤ width * height + 1 := by nlinarith
  omega

lemma Room.weight_lt (h : Room width height weight) (c : Cell width height) : weight < 2 ^ 53 := by
  have hx := Nat.zero_lt_of_lt c.inside.1
  have hle : weight ≤ weight * (width + height) := Nat.le_mul_of_pos_right _ (by omega)
  unfold Room at h
  omega

lemma Room.total_lt (h : Room width height weight) (hn : n ≤ width * height) (goal c : Cell width height) :
    n + toGoal weight goal c < 2 ^ 53 := by
  unfold Room at h
  have hle : toGoal weight goal c ≤ weight * (width + height) :=
    Nat.mul_le_mul_left weight (c.manhattan_lt goal).le
  omega

lemma Room.total_le (h : Room width height weight) (hn : n ≤ width * height) (hm : m ≤ width * height)
    (hle : (Node.whole weight goal n c).total.rank ≤ (Node.whole weight goal m d).total.rank) :
    n + toGoal weight goal c ≤ m + toGoal weight goal d := by
  have hc := h.total_lt hn goal c
  have hd := h.total_lt hm goal d
  change (Priority.ofFloat (Float.ofNat n + Float.ofNat (toGoal weight goal c))).rank ≤
    (Priority.ofFloat (Float.ofNat m + Float.ofNat (toGoal weight goal d))).rank at hle
  rw [Whole.add_ofNat hc, Whole.add_ofNat hd, ← Cost.toFloat_coe, ← Cost.toFloat_coe, ← not_lt,
    Cost.rank_lt (Cost.exact_coe.mpr hd) (Cost.exact_coe.mpr hc), not_lt] at hle
  exact Nat.cast_le.mp hle

lemma toGoal_le (weight : ℕ) (goal c d : Cell width height) :
    toGoal weight goal d ≤ max 1 weight * d.toPoint.manhattan c.toPoint + toGoal weight goal c :=
  calc toGoal weight goal d
      ≤ weight * (d.toPoint.manhattan c.toPoint + c.toPoint.manhattan goal.toPoint) :=
        Nat.mul_le_mul_left weight (Point.manhattan_triangle _ _ _)
    _ = weight * d.toPoint.manhattan c.toPoint + toGoal weight goal c := Nat.mul_add _ _ _
    _ ≤ _ := Nat.add_le_add_right (Nat.mul_le_mul_right _ (le_max_right _ _)) _

namespace Progress

variable {p r : Progress width height} {node : Node width height} {rest : List (Node width height)}
  {estimate : Point → Float}

noncomputable def known (p : Progress width height) (c : Cell width height) : ℕ∞ :=
  (p.costs.lookup c).elim ⊤ Cost.value

def unclosed (p : Progress width height) : Finset (Cell width height) :=
  Finset.univ.filter fun c => p.closed.lookup c = false

def better (p : Progress width height) (c : Cell width height) (cost : Float) : Bool :=
  match p.costs.lookup c with
  | some known => cost < known
  | none => true

def close (p : Progress width height) (c : Cell width height) (rest : List (Node width height)) :
    Progress width height :=
  { p with opened := rest, closed := p.closed.put c true, explored := p.explored + 1 }

def visit (p : Progress width height) (weight : ℕ) (goal u d : Cell width height) (n : ℕ) :
    Progress width height :=
  { p with
    costs := p.costs.put d (some (Float.ofNat n))
    parents := p.parents.put d (some u)
    opened := Sorted.insert (Node.whole weight goal n d) p.opened }

lemma mem_unclosed : c ∈ p.unclosed ↔ p.closed.lookup c = false := by simp [unclosed]

lemma unclosed_congr (h : p.closed = r.closed) : p.unclosed = r.unclosed := by rw [unclosed, h, unclosed]

lemma closed_close : (p.close c rest).closed.lookup d = if d = c then true else p.closed.lookup d :=
  Table.lookup_put _ _ _ _

lemma closed_close_eq_true :
    (p.close c rest).closed.lookup d = true ↔ d = c ∨ p.closed.lookup d = true := by
  rw [closed_close]
  by_cases hd : d = c <;> simp [hd]

lemma closed_close_eq_false :
    (p.close c rest).closed.lookup d = false ↔ d ≠ c ∧ p.closed.lookup d = false := by
  rw [closed_close]
  by_cases hd : d = c <;> simp [hd]

lemma known_close : (p.close c rest).known d = p.known d := rfl

lemma unclosed_close : (p.close c rest).unclosed = p.unclosed.erase c := by
  ext d
  rw [Finset.mem_erase, mem_unclosed, mem_unclosed, closed_close_eq_false]

lemma costs_visit : (p.visit weight goal u d n).costs.lookup c =
    if c = d then some (Float.ofNat n) else p.costs.lookup c := Table.lookup_put _ _ _ _

lemma known_visit (hn : n < 2 ^ 53) :
    (p.visit weight goal u d n).known c = if c = d then (n : ℕ∞) else p.known c := by
  rw [known, costs_visit]
  split
  · rw [Option.elim_some, ← Cost.toFloat_coe, Cost.value_toFloat (Cost.exact_coe.mpr hn)]
  · rfl

lemma known_visit_le (hn : n < 2 ^ 53) (h : (n : ℕ∞) ≤ p.known d) (c : Cell width height) :
    (p.visit weight goal u d n).known c ≤ p.known c := by
  rw [known_visit hn]
  split
  · rename_i he
    rwa [he]
  · exact le_rfl

lemma known_visit_of_closed (hn : n < 2 ^ 53) (hd : p.closed.lookup d = false)
    (hc : p.closed.lookup c = true) : (p.visit weight goal u d n).known c = p.known c := by
  rw [known_visit hn, if_neg]
  rintro rfl
  rw [hc] at hd
  cases hd

lemma relax_eq (hest : estimate d.toPoint = Float.ofNat (toGoal weight goal d)) (hn : n + 1 < 2 ^ 53) :
    relax estimate (Node.whole weight goal n u) p (d, 1.0) =
      if !p.closed.lookup d && p.better d (Float.ofNat (n + 1)) then p.visit weight goal u d (n + 1)
      else p := by
  have hcost : (Node.whole weight goal n u).cost.toFloat + 1.0 = Float.ofNat (n + 1) := by
    have hback : (Node.whole weight goal n u).cost.toFloat = Float.ofNat n :=
      Cost.toFloat_ofFloat (by omega)
    have hone : (1.0 : Float) = Float.ofNat 1 := rfl
    rw [hback, hone, Whole.add_ofNat hn]
  have hnew : Node.whole weight goal (n + 1) d =
      Node.of (Float.ofNat (n + 1)) (estimate d.toPoint) d := by
    rw [hest]
    rfl
  rw [visit, hnew, ← hcost]
  rfl

structure Sound (blocked : Table height width Bool) (start goal : Cell width height) (weight : ℕ)
    (p : Progress width height) (u : Cell width height) (P : Set (Cell width height)) : Prop where
  costs : ∀ c x, p.costs.lookup c = some x → ∃ n ≤ p.explored, x = Float.ofNat n
  sorted : p.opened.Pairwise fun a b => a.total.rank ≤ b.total.rank
  opened : ∀ a ∈ p.opened, ∃ n ≤ p.explored, a = Node.whole weight goal n a.cell ∧ p.known a.cell ≤ n
  frontier : ∀ (c) (n : ℕ), p.closed.lookup c = false → p.known c = n →
    Node.whole weight goal n c ∈ p.opened
  origin : p.known start = 0
  reach : ∀ c, (roads blocked).edist start c ≤ p.known c
  near : ∀ (c) (n : ℕ), p.closed.lookup c = true → (roads blocked).edist start c = n →
    p.known c ≤ (max 1 weight * n : ℕ)
  relaxed : ∀ c d, p.closed.lookup c = true → p.closed.lookup d = false → (roads blocked).Adj c d →
    p.known d ≤ p.known c + 1 ∨ c = u ∧ d ∈ P
  count : p.explored + p.unclosed.card = width * height

lemma dropWhile_eq_cons {α : Type} {f : α → Bool} {x : α} {xs ys : List α}
    (hd : xs.dropWhile f = x :: ys) :
    f x = false ∧ (x :: ys).Sublist xs ∧ ∀ y ∈ xs, f y = false → y ∈ x :: ys := by
  induction xs with
  | nil => cases hd
  | cons z zs ih =>
    rw [List.dropWhile_cons] at hd
    split at hd
    · rename_i hz
      obtain ⟨hx, hsub, hmem⟩ := ih hd
      refine ⟨hx, hsub.cons z, fun y hy hf => ?_⟩
      rcases List.mem_cons.mp hy with rfl | hy
      · rw [hz] at hf
        cases hf
      · exact hmem y hy hf
    · rename_i hz
      cases hd
      exact ⟨Bool.eq_false_iff.mpr hz, List.Sublist.refl _, fun y hy _ => hy⟩

lemma rank_le_of_dropWhile (hd : p.opened.dropWhile (fun a => p.closed.lookup a.cell) = node :: rest)
    (hs : p.opened.Pairwise fun a b => a.total.rank ≤ b.total.rank) (ha : a ∈ p.opened)
    (hc : p.closed.lookup a.cell = false) : node.total.rank ≤ a.total.rank := by
  obtain ⟨-, hsub, hmem⟩ := dropWhile_eq_cons hd
  rcases List.mem_cons.mp (hmem a ha hc) with rfl | ha
  · exact le_rfl
  · exact (List.pairwise_cons.mp (hs.sublist hsub)).1 a ha

namespace Sound

lemma explored_le (h : Sound blocked start goal weight p u P) : p.explored ≤ width * height := by
  have := h.count
  omega

lemma exists_unclosed (h : Sound blocked start goal weight p u ∅) (w : (roads blocked).Walk v c) {i : ℕ}
    (hv : (roads blocked).edist start v ≤ i) (hk : p.known v ≤ (max 1 weight * i : ℕ))
    (hc : p.closed.lookup c = false) : ∃ (d : Cell width height) (j : ℕ),
      p.closed.lookup d = false ∧ p.known d ≤ (max 1 weight * j : ℕ) ∧
        j + d.toPoint.manhattan c.toPoint ≤ i + w.length := by
  induction w generalizing i with
  | nil => exact ⟨_, i, hc, hk, by rw [Point.manhattan_self, SimpleGraph.Walk.length_nil]⟩
  | @cons v d c hadj q ih =>
    rw [SimpleGraph.Walk.length_cons]
    have hi : max 1 weight * i + 1 ≤ max 1 weight * (i + 1) := by
      have hone : 1 ≤ max 1 weight := le_max_left _ _
      rw [Nat.mul_succ]
      omega
    cases hclosed : p.closed.lookup v with
    | false =>
      have hm := roads.manhattan_le_length (.cons hadj q)
      rw [SimpleGraph.Walk.length_cons] at hm
      exact ⟨v, i, hclosed, hk, by omega⟩
    | true =>
      have hd : (roads blocked).edist start d ≤ (i + 1 : ℕ) := by
        rw [Nat.cast_add, Nat.cast_one]
        exact (roads.edist_to_le_succ hadj start).trans (add_le_add_left hv 1)
      have hkd : p.known d ≤ (max 1 weight * (i + 1) : ℕ) := by
        cases hcd : p.closed.lookup d with
        | true =>
          obtain ⟨k, hk⟩ := ENat.ne_top_iff_exists.mp (ne_top_of_le_ne_top (ENat.natCast_ne_top _) hd)
          rw [← hk] at hd
          exact (h.near d k hcd hk.symm).trans
            (Nat.cast_le.mpr (Nat.mul_le_mul_left _ (Nat.cast_le.mp hd)))
        | false =>
          have hr := (h.relaxed v d hclosed hcd hadj).resolve_right fun hf => hf.2
          refine (hr.trans (add_le_add_left hk 1)).trans ?_
          exact_mod_cast hi
      obtain ⟨e, j, he, hke, hj⟩ := ih hd hkd hc
      exact ⟨e, j, he, hke, by omega⟩

lemma known_eq (hroom : Room width height weight) (h : Sound blocked start goal weight p u P) {x : Float}
    (hx : p.costs.lookup c = some x) : ∃ n ≤ p.explored, x = Float.ofNat n ∧ p.known c = n := by
  obtain ⟨n, hn, rfl⟩ := h.costs c x hx
  have hle := h.explored_le
  have hlt := hroom.total_lt (hn.trans hle) c c
  refine ⟨n, hn, rfl, ?_⟩
  rw [known, hx, Option.elim_some, ← Cost.toFloat_coe, Cost.value_toFloat (Cost.exact_coe.mpr (by omega))]

lemma better_iff (hroom : Room width height weight) (h : Sound blocked start goal weight p u P)
    (c : Cell width height) (hn : n < 2 ^ 53) : p.better c (Float.ofNat n) = true ↔ n < p.known c := by
  have hle := h.explored_le
  have hsize := hroom.size_lt
  rw [better]
  cases hx : p.costs.lookup c with
  | none =>
    rw [known, hx]
    exact iff_of_true rfl (ENat.natCast_lt_top n)
  | some x =>
    obtain ⟨m, hm, rfl, hk⟩ := h.known_eq hroom hx
    dsimp only
    rw [hk, decide_eq_true_iff, ← Cost.toFloat_coe, ← Cost.toFloat_coe,
      Cost.toFloat_lt (Cost.exact_coe.mpr hn) (Cost.exact_coe.mpr (by omega))]

lemma known_le (hroom : Room width height weight) (h : Sound blocked start goal weight p u P)
    (hk : p.known c = n) : n ≤ p.explored := by
  cases hx : p.costs.lookup c with
  | none =>
    rw [known, hx] at hk
    exact (ENat.top_ne_natCast n hk).elim
  | some x =>
    obtain ⟨m, hm, -, hkm⟩ := h.known_eq hroom hx
    rw [hk, Nat.cast_inj] at hkm
    rwa [hkm]

lemma exists_open (h : Sound blocked start goal weight p u ∅) (hc : p.closed.lookup c = false)
    (hr : (roads blocked).edist start c = n) : ∃ (d : Cell width height) (j m : ℕ),
      p.closed.lookup d = false ∧ p.known d = m ∧ m ≤ max 1 weight * j ∧
        j + d.toPoint.manhattan c.toPoint ≤ n := by
  obtain ⟨w, hw⟩ := (roads blocked).exists_walk_of_edist_eq_coe hr
  obtain ⟨d, j, hd, hk, hj⟩ := h.exists_unclosed w (i := 0) (by rw [SimpleGraph.edist_self]; rfl)
    (by rw [h.origin]; exact zero_le) hc
  obtain ⟨m, hm⟩ := ENat.ne_top_iff_exists.mp (ne_top_of_le_ne_top (ENat.natCast_ne_top _) hk)
  rw [← hm, Nat.cast_le] at hk
  exact ⟨d, j, m, hd, hm.symm, hk, by omega⟩

lemma total_le (hroom : Room width height weight) (h : Sound blocked start goal weight p u ∅)
    (hd : p.opened.dropWhile (fun a => p.closed.lookup a.cell) = node :: rest) (hn : n ≤ p.explored)
    (hnode : node = Node.whole weight goal n node.cell) (hc : p.closed.lookup c = false) (hm : p.known c = m) :
    n + toGoal weight goal node.cell ≤ m + toGoal weight goal c := by
  have hrank := rank_le_of_dropWhile hd h.sorted (h.frontier c m hc hm) hc
  rw [hnode] at hrank
  exact hroom.total_le (hn.trans h.explored_le) ((h.known_le hroom hm).trans h.explored_le) hrank

lemma head (hroom : Room width height weight) (h : Sound blocked start goal weight p u ∅)
    (hd : p.opened.dropWhile (fun a => p.closed.lookup a.cell) = node :: rest) :
    p.closed.lookup node.cell = false ∧ ∃ n ≤ p.explored, node = Node.whole weight goal n node.cell ∧
      p.known node.cell = n ∧ ∀ m : ℕ, (roads blocked).edist start node.cell = m →
        n ≤ max 1 weight * m := by
  obtain ⟨hclosed, hsub, -⟩ := dropWhile_eq_cons hd
  obtain ⟨n, hn, hnode, hkn⟩ := h.opened node (hsub.subset List.mem_cons_self)
  have hknown : p.known node.cell = n := by
    obtain ⟨m, hm⟩ := ENat.ne_top_iff_exists.mp (ne_top_of_le_ne_top (ENat.natCast_ne_top n) hkn)
    have hge := h.total_le hroom hd hn hnode hclosed hm.symm
    rw [← hm, Nat.cast_le] at hkn
    rw [← hm, Nat.cast_inj]
    omega
  refine ⟨hclosed, n, hn, hnode, hknown, fun m hm => ?_⟩
  -- where a shortest way leaves the closed cells, the total is no lower
  obtain ⟨d, j, k, hd', hk, hkj, hj⟩ := h.exists_open hclosed hm
  have htotal := h.total_le hroom hd hn hnode hd' hk
  have hest := toGoal_le weight goal node.cell d
  calc n ≤ k + max 1 weight * d.toPoint.manhattan node.cell.toPoint := by omega
    _ ≤ max 1 weight * j + max 1 weight * d.toPoint.manhattan node.cell.toPoint :=
        Nat.add_le_add_right hkj _
    _ = max 1 weight * (j + d.toPoint.manhattan node.cell.toPoint) := (Nat.mul_add _ _ _).symm
    _ ≤ max 1 weight * m := Nat.mul_le_mul_left _ hj

lemma close (hroom : Room width height weight) (h : Sound blocked start goal weight p u ∅)
    (hd : p.opened.dropWhile (fun a => p.closed.lookup a.cell) = node :: rest) :
    Sound blocked start goal weight (p.close node.cell rest) node.cell
      {d | (roads blocked).Adj node.cell d} := by
  obtain ⟨hclosed, n, hn, hnode, hkn, hnear⟩ := h.head hroom hd
  obtain ⟨-, hsub, hmem⟩ := dropWhile_eq_cons hd
  constructor
  · intro c x hx
    obtain ⟨m, hm, he⟩ := h.costs c x hx
    exact ⟨m, Nat.le_succ_of_le hm, he⟩
  · exact (List.pairwise_cons.mp (h.sorted.sublist hsub)).2
  · intro a ha
    obtain ⟨m, hm, he⟩ := h.opened a (hsub.subset (List.mem_cons_of_mem _ ha))
    exact ⟨m, Nat.le_succ_of_le hm, he⟩
  · intro c m hc hk
    obtain ⟨hne, hc'⟩ := closed_close_eq_false.mp hc
    refine (List.mem_cons.mp (hmem _ (h.frontier c m hc' hk) hc')).resolve_left fun he => hne ?_
    rw [← he]
    rfl
  · exact h.origin
  · exact h.reach
  · intro c m hc hm
    rcases closed_close_eq_true.mp hc with rfl | hc
    · rw [known_close, hkn]
      exact Nat.cast_le.mpr (hnear m hm)
    · exact h.near c m hc hm
  · intro c d hc hd' hadj
    rcases closed_close_eq_true.mp hc with rfl | hc
    · exact Or.inr ⟨rfl, hadj⟩
    · exact Or.inl ((h.relaxed c d hc (closed_close_eq_false.mp hd').2 hadj).resolve_right fun hf => hf.2)
  · have hin : node.cell ∈ p.unclosed := mem_unclosed.mpr hclosed
    have hpos := Finset.card_pos.mpr ⟨_, hin⟩
    have hcount := h.count
    have hexplored : (p.close node.cell rest).explored = p.explored + 1 := rfl
    rw [unclosed_close, Finset.card_erase_of_mem hin, hexplored]
    omega

lemma visit (hroom : Room width height weight) (h : Sound blocked start goal weight p u (insert d P))
    (hu : p.known u = n) (hn : n + 1 ≤ p.explored) (hadj : (roads blocked).Adj u d)
    (hclosed : p.closed.lookup d = false) (hlt : ((n + 1 : ℕ) : ℕ∞) < p.known d) :
    Sound blocked start goal weight (p.visit weight goal u d (n + 1)) u P := by
  have hle := h.explored_le
  have hsize := hroom.size_lt
  have hexact : n + 1 < 2 ^ 53 := by omega
  have hless (c : Cell width height) : (p.visit weight goal u d (n + 1)).known c ≤ p.known c :=
    known_visit_le hexact hlt.le c
  have hsame {c : Cell width height} (hc : p.closed.lookup c = true) :
      (p.visit weight goal u d (n + 1)).known c = p.known c := known_visit_of_closed hexact hclosed hc
  constructor
  · intro c x hx
    rw [costs_visit] at hx
    split at hx
    · exact ⟨n + 1, hn, (Option.some.inj hx).symm⟩
    · exact h.costs c x hx
  · exact Sorted.pairwise_insert (fun _ _ => Node.compare_eq_gt) (fun _ _ => Node.compare_ne_gt)
      h.sorted _
  · intro a ha
    rcases Sorted.mem_insert.mp ha with rfl | ha
    · refine ⟨n + 1, hn, rfl, ?_⟩
      rw [known_visit hexact]
      exact (if_pos rfl).le
    · obtain ⟨m, hm, he, hk⟩ := h.opened a ha
      exact ⟨m, hm, he, (hless _).trans hk⟩
  · intro c m hc hk
    rw [known_visit hexact] at hk
    split at hk
    · rename_i he
      rw [he, ← Nat.cast_inj.mp hk]
      exact Sorted.mem_insert.mpr (Or.inl rfl)
    · exact Sorted.mem_insert.mpr (Or.inr (h.frontier c m hc hk))
  · exact le_antisymm ((hless start).trans h.origin.le) zero_le
  · intro c
    rw [known_visit hexact]
    split
    · rename_i he
      rw [he]
      refine (roads.edist_to_le_succ hadj start).trans ?_
      rw [Nat.cast_add, Nat.cast_one, ← hu]
      exact add_le_add_left (h.reach u) 1
    · exact h.reach c
  · intro c m hc hm
    rw [hsame hc]
    exact h.near c m hc hm
  · intro c e hc he hadj'
    rw [hsame hc]
    rcases h.relaxed c e hc he hadj' with hk | ⟨rfl, hmem⟩
    · exact Or.inl ((hless e).trans hk)
    · rcases Set.mem_insert_iff.mp hmem with rfl | hmem
      · rw [known_visit hexact, if_pos rfl, hu, Nat.cast_add, Nat.cast_one]
        exact Or.inl le_rfl
      · exact Or.inr ⟨rfl, hmem⟩
  · exact h.count

lemma skip (h : Sound blocked start goal weight p u (insert d P)) (hu : p.known u = n)
    (hd : p.closed.lookup d = false → p.known d ≤ (n + 1 : ℕ)) : Sound blocked start goal weight p u P := by
  refine ⟨h.costs, h.sorted, h.opened, h.frontier, h.origin, h.reach, h.near, ?_, h.count⟩
  intro c e hc he hadj
  rcases h.relaxed c e hc he hadj with hk | ⟨rfl, hmem⟩
  · exact Or.inl hk
  · rcases Set.mem_insert_iff.mp hmem with rfl | hmem
    · rw [hu, ← Nat.cast_one, ← Nat.cast_add]
      exact Or.inl (hd he)
    · exact Or.inr ⟨rfl, hmem⟩

lemma relax (hroom : Room width height weight) (h : Sound blocked start goal weight p u (insert d P))
    (hest : estimate d.toPoint = Float.ofNat (toGoal weight goal d)) (hu : p.known u = n)
    (hn : n + 1 ≤ p.explored) (hadj : (roads blocked).Adj u d) :
    Sound blocked start goal weight
        (Progress.relax estimate (Node.whole weight goal n u) p (d, 1.0)) u P ∧
      (Progress.relax estimate (Node.whole weight goal n u) p (d, 1.0)).closed = p.closed ∧
      (Progress.relax estimate (Node.whole weight goal n u) p (d, 1.0)).explored = p.explored ∧
      (Progress.relax estimate (Node.whole weight goal n u) p (d, 1.0)).known u = n := by
  have hle := h.explored_le
  have hsize := hroom.size_lt
  have hexact : n + 1 < 2 ^ 53 := by omega
  have hbetter := h.better_iff hroom d hexact
  rw [relax_eq hest hexact]
  by_cases hc : (!p.closed.lookup d && p.better d (Float.ofNat (n + 1))) = true
  · rw [if_pos hc]
    rw [Bool.and_eq_true, Bool.not_eq_true', hbetter] at hc
    refine ⟨h.visit hroom hu hn hadj hc.1 hc.2, rfl, rfl, ?_⟩
    rw [known_visit hexact, if_neg hadj.ne, hu]
  · rw [if_neg hc]
    rw [Bool.and_eq_true, Bool.not_eq_true', hbetter, not_and] at hc
    exact ⟨h.skip hu fun hd => not_lt.mp (hc hd), rfl, rfl, hu⟩

lemma foldl_relax (hroom : Room width height weight) (l : List (Cell width height))
    (h : Sound blocked start goal weight p u {d | d ∈ l})
    (hest : ∀ d : Cell width height, estimate d.toPoint = Float.ofNat (toGoal weight goal d))
    (hu : p.known u = n) (hn : n + 1 ≤ p.explored) (hadj : ∀ d ∈ l, (roads blocked).Adj u d) :
    Sound blocked start goal weight
        ((l.map fun d => (d, 1.0)).foldl (Progress.relax estimate (Node.whole weight goal n u)) p) u ∅ ∧
      ((l.map fun d => (d, 1.0)).foldl (Progress.relax estimate (Node.whole weight goal n u)) p).closed =
        p.closed := by
  induction l generalizing p with
  | nil => exact ⟨by simpa using h, rfl⟩
  | cons d l ih =>
    have hset : {e | e ∈ d :: l} = insert d {e | e ∈ l} := by
      ext e
      simp
    rw [hset] at h
    obtain ⟨hr, hc, he, hk⟩ := h.relax hroom (hest d) hu hn (hadj d List.mem_cons_self)
    rw [List.map_cons, List.foldl_cons]
    obtain ⟨hs, hc'⟩ := ih hr hk (by rwa [he]) fun e he => hadj e (List.mem_cons_of_mem d he)
    exact ⟨hs, hc'.trans hc⟩

lemma free_of_known (h : Sound blocked start goal weight p u P) (hfree : blocked.lookup start = false)
    (hk : p.known c = n) : blocked.lookup c = false := by
  by_cases he : c = start
  · rwa [he]
  · have hle := h.reach c
    rw [hk, SimpleGraph.edist_comm] at hle
    exact roads.blocked_of_reachable (SimpleGraph.edist_ne_top_iff_reachable.mp
      (ne_top_of_le_ne_top (ENat.natCast_ne_top n) hle)) he

lemma round (hroom : Room width height weight) (hfree : blocked.lookup start = false)
    (hest : ∀ d : Cell width height, estimate d.toPoint = Float.ofNat (toGoal weight goal d))
    (h : Sound blocked start goal weight p u ∅)
    (hd : p.opened.dropWhile (fun a => p.closed.lookup a.cell) = node :: rest) :
    Sound blocked start goal weight
        ((moves blocked false node.cell).foldl (Progress.relax estimate node) (p.close node.cell rest))
        node.cell ∅ ∧
      ((moves blocked false node.cell).foldl (Progress.relax estimate node)
        (p.close node.cell rest)).closed = (p.close node.cell rest).closed := by
  obtain ⟨-, n, hn, hnode, hk, -⟩ := h.head hroom hd
  have hclose := h.close hroom hd
  have hadj (d : Cell width height) : (roads blocked).Adj node.cell d ↔
      d ∈ node.cell.neighbors.filter fun d => !blocked.lookup d := by
    rw [List.mem_filter, Bool.not_eq_true']
    exact ⟨fun ha => ⟨ha.1, ha.2.2⟩, fun ha => ⟨ha.1, h.free_of_known hfree hk, ha.2⟩⟩
  have hset : {d | (roads blocked).Adj node.cell d} =
      {d | d ∈ node.cell.neighbors.filter fun d => !blocked.lookup d} := Set.ext hadj
  rw [hset] at hclose
  have hmoves : moves blocked false node.cell =
      (node.cell.neighbors.filter fun d => !blocked.lookup d).map fun d => (d, 1.0) := rfl
  have hfold := hclose.foldl_relax hroom _ hest hk (Nat.succ_le_succ hn) fun d hd => (hadj d).mpr hd
  rwa [← hnode, ← hmoves] at hfold

end Sound

end Progress

structure Bounded (a : Plan) (blocked : Table height width Bool) (start goal : Cell width height)
    (weight : ℕ) : Prop where
  success : a.success = true ↔ (roads blocked).Reachable start goal
  cost : a.success = true → ∃ n : ℕ, a.cost = Float.ofNat n ∧ (roads blocked).dist start goal ≤ n ∧
    n ≤ max 1 weight * (roads blocked).dist start goal

namespace Progress

variable {p : Progress width height} {node : Node width height} {rest : List (Node width height)}
  {estimate : Point → Float}

lemma Sound.bounded_failed (h : Sound blocked start goal weight p u ∅)
    (hgoal : p.closed.lookup goal = false)
    (hd : p.opened.dropWhile (fun a => p.closed.lookup a.cell) = []) :
    Bounded (.failed p.explored) blocked start goal weight := by
  refine ⟨iff_of_false Bool.false_ne_true fun hr => ?_, fun hf => (Bool.false_ne_true hf).elim⟩
  obtain ⟨d, j, m, hdc, hk, -, -⟩ := h.exists_open hgoal hr.coe_dist_eq_edist.symm
  have hcl := List.dropWhile_eq_nil_iff.mp hd _ (h.frontier d m hdc hk)
  change p.closed.lookup d = true at hcl
  rw [hdc] at hcl
  cases hcl

lemma Sound.bounded_found (hroom : Room width height weight) (h : Sound blocked start goal weight p u ∅)
    (hd : p.opened.dropWhile (fun a => p.closed.lookup a.cell) = node :: rest) (hng : node.cell = goal)
    (path : List Point) (explored : ℕ) :
    Bounded (.found path node.cost.toFloat explored) blocked start goal weight := by
  obtain ⟨-, n, hn, hnode, hk, hnear⟩ := h.head hroom hd
  have hle := h.reach node.cell
  rw [hng] at hk hle hnear
  rw [hk] at hle
  have hreach : (roads blocked).Reachable start goal :=
    SimpleGraph.edist_ne_top_iff_reachable.mp (ne_top_of_le_ne_top (ENat.natCast_ne_top n) hle)
  rw [← hreach.coe_dist_eq_edist] at hle
  have hlt := hroom.total_lt (hn.trans h.explored_le) goal goal
  have hcost : node.cost.toFloat = Float.ofNat n := by
    rw [hnode]
    exact Cost.toFloat_ofFloat (by omega)
  exact ⟨iff_of_true rfl hreach,
    fun _ => ⟨n, hcost, Nat.cast_le.mp hle, hnear _ hreach.coe_dist_eq_edist.symm⟩⟩

lemma run_cons {moves : Cell width height → List (Cell width height × Float)} {rounds : ℕ}
    (hd : p.opened.dropWhile (fun a => p.closed.lookup a.cell) = node :: rest) :
    run moves estimate goal (rounds + 1) p =
      if node.cell = goal then
        .found (trail p.parents (width * height) goal []) node.cost.toFloat (p.explored + 1)
      else run moves estimate goal rounds
        ((moves node.cell).foldl (relax estimate node) (p.close node.cell rest)) := by
  rw [run, hd]
  rfl

lemma Sound.bounded_run (hroom : Room width height weight) (hfree : blocked.lookup start = false)
    (hest : ∀ d : Cell width height, estimate d.toPoint = Float.ofNat (toGoal weight goal d))
    {rounds : ℕ} (h : Sound blocked start goal weight p u ∅) (hgoal : p.closed.lookup goal = false)
    (hrounds : p.unclosed.card ≤ rounds) :
    Bounded (run (moves blocked false) estimate goal rounds p) blocked start goal weight := by
  induction rounds generalizing p u with
  | zero =>
    have hpos := Finset.card_pos.mpr ⟨goal, mem_unclosed.mpr hgoal⟩
    omega
  | succ rounds ih =>
    cases hd : p.opened.dropWhile fun a => p.closed.lookup a.cell with
    | nil =>
      rw [run, hd]
      exact h.bounded_failed hgoal hd
    | cons node rest =>
      rw [run_cons hd]
      split
      · rename_i hng
        exact h.bounded_found hroom hd hng _ _
      · rename_i hng
        obtain ⟨hs, hc⟩ := h.round hroom hfree hest hd
        have hin := mem_unclosed.mpr (h.head hroom hd).1
        refine ih hs ?_ ?_
        · rw [hc]
          exact closed_close_eq_false.mpr ⟨Ne.symm hng, hgoal⟩
        · rw [unclosed_congr hc, unclosed_close, Finset.card_erase_of_mem hin]
          omega

lemma known_start : (Progress.start estimate start).known c = if c = start then 0 else ⊤ := by
  have hcosts : (Progress.start estimate start).costs.lookup c =
      if c = start then some (Float.ofNat 0) else none :=
    (Table.lookup_put _ _ _ _).trans (by rw [Table.lookup_uniform]; rfl)
  rw [known, hcosts]
  split
  · rw [Option.elim_some, ← Cost.toFloat_coe, Cost.value_toFloat (Cost.exact_coe.mpr (by omega))]
    rfl
  · rfl

lemma closed_start : (Progress.start estimate start).closed.lookup c = false := Table.lookup_uniform false c

lemma opened_start (hroom : Room width height weight)
    (hest : estimate start.toPoint = Float.ofNat (toGoal weight goal start)) :
    (Progress.start estimate start).opened = [Node.whole weight goal 0 start] := by
  have hzero : (0.0 : Float) = Float.ofNat 0 := rfl
  have hlt := hroom.total_lt (Nat.zero_le _) goal start
  rw [Node.whole, Node.of, Whole.add_ofNat hlt, zero_add, Progress.start, hest, hzero]

lemma sound_start (hroom : Room width height weight)
    (hest : estimate start.toPoint = Float.ofNat (toGoal weight goal start)) :
    Sound blocked start goal weight (Progress.start estimate start) start ∅ := by
  have hopened := opened_start hroom hest
  have hnot {c : Cell width height} (hc : (Progress.start estimate start).closed.lookup c = true) :
      False := by
    rw [closed_start] at hc
    cases hc
  constructor
  · intro c x hx
    have hput : (Progress.start estimate start).costs.lookup c = if c = start then some 0.0 else none :=
      (Table.lookup_put _ _ _ _).trans (by rw [Table.lookup_uniform])
    rw [hput] at hx
    split at hx
    · exact ⟨0, Nat.zero_le _, (Option.some.inj hx).symm⟩
    · cases hx
  · rw [hopened]
    exact List.pairwise_singleton _ _
  · intro a ha
    rw [hopened, List.mem_singleton] at ha
    refine ⟨0, Nat.zero_le _, by rw [ha]; rfl, ?_⟩
    rw [ha, known_start]
    exact (if_pos rfl).le
  · intro c n _ hk
    rw [known_start] at hk
    split at hk
    · rename_i hc
      rw [hopened, hc, ← Nat.cast_inj.mp (Nat.cast_zero.trans hk)]
      exact List.mem_singleton_self _
    · exact (ENat.top_ne_natCast n hk).elim
  · rw [known_start, if_pos rfl]
  · intro c
    rw [known_start]
    split
    · rename_i hc
      rw [hc, SimpleGraph.edist_self]
    · exact le_top
  · exact fun c n hc => (hnot hc).elim
  · exact fun c d hc => (hnot hc).elim
  · have hall : (Progress.start estimate start).unclosed = Finset.univ :=
      Finset.filter_true_of_mem fun c _ => closed_start
    rw [hall, Finset.card_univ, Cell.card_eq]
    exact zero_add _

lemma bounded_start (hroom : Room width height weight) (hfree : blocked.lookup start = false)
    (hest : ∀ d : Cell width height, estimate d.toPoint = Float.ofNat (toGoal weight goal d)) :
    Bounded (run (moves blocked false) estimate goal (width * height) (Progress.start estimate start))
      blocked start goal weight := by
  have hs : Sound blocked start goal weight (Progress.start estimate start) start ∅ :=
    sound_start hroom (hest start)
  refine hs.bounded_run hroom hfree hest (Table.lookup_uniform false goal) ?_
  have hcount := hs.count
  omega

end Progress

namespace Query

variable {hypot : Float → Float → Float}

lemma plan_of_none {q : Query} (h : q.freeCell? q.start = none ∨ q.freeCell? q.goal = none) :
    q.plan = .failed 0 := by
  unfold plan
  split
  · rename_i hs hg
    rw [hs, hg] at h
    rcases h with h | h <;> cases h
  · rfl

lemma plan_of_some {q : Query} {c d : Cell q.grid.width q.grid.height} (hs : q.freeCell? q.start = some c)
    (hg : q.freeCell? q.goal = some d) : q.plan =
      Progress.run (moves q.grid.blocked q.diagonal) q.estimate d (q.grid.width * q.grid.height)
        (Progress.start q.estimate c) := by
  rw [plan, hs, hg]

def straight (blocked : Table height width Bool) (start goal : Cell width height) (weight : ℕ)
    (hypot : Float → Float → Float := hypotenuse) : Query where
  grid := ⟨width, height, blocked⟩
  start := start.toPoint
  goal := goal.toPoint
  heuristic := .manhattan
  weight := Float.ofNat weight
  diagonal := false
  hypot := hypot

lemma estimate_straight (hroom : Room width height weight) (c : Cell width height) :
    (straight blocked start goal weight hypot).estimate c.toPoint = Float.ofNat (toGoal weight goal c) := by
  have hsize := hroom.manhattan_lt c goal
  have htotal := hroom.total_lt (Nat.zero_le _) goal c
  rw [zero_add] at htotal
  have hsum : Float.ofNat (Point.apart c.x goal.x) + Float.ofNat (Point.apart c.y goal.y) =
      Float.ofNat (c.toPoint.manhattan goal.toPoint) := Whole.add_ofNat hsize
  change Float.ofNat weight * (Float.ofNat (Point.apart c.x goal.x) + Float.ofNat (Point.apart c.y goal.y)) = _
  rw [hsum]
  exact Whole.mul_ofNat (hroom.weight_lt c) hsize htotal

lemma freeCell_straight (c : Cell width height) :
    (straight blocked start goal weight hypot).freeCell? c.toPoint =
      if blocked.lookup c = false then some c else none := by
  have hc : Cell.ofPoint? width height c.toPoint = some c := dif_pos c.inside
  change (Cell.ofPoint? width height c.toPoint).filter (fun c => !blocked.lookup c) = _
  rw [hc, Option.filter_some]
  cases blocked.lookup c <;> rfl

lemma plan_of_blocked (h : ¬(blocked.lookup start = false ∧ blocked.lookup goal = false)) :
    (straight blocked start goal weight hypot).plan = .failed 0 := by
  refine plan_of_none ?_
  rcases not_and_or.mp h with hs | hg
  · exact Or.inl ((freeCell_straight start).trans (if_neg hs))
  · exact Or.inr ((freeCell_straight goal).trans (if_neg hg))

lemma plan_of_free (hs : blocked.lookup start = false) (hg : blocked.lookup goal = false) :
    (straight blocked start goal weight hypot).plan =
      Progress.run (moves blocked false) (straight blocked start goal weight hypot).estimate goal
        (width * height) (Progress.start (straight blocked start goal weight hypot).estimate start) :=
  plan_of_some ((freeCell_straight start).trans (if_pos hs)) ((freeCell_straight goal).trans (if_pos hg))

lemma plan_straight (hroom : Room width height weight) (blocked : Table height width Bool)
    (start goal : Cell width height) :
    let a := (straight blocked start goal weight hypot).plan
    (a.success = true ↔ blocked.lookup start = false ∧ blocked.lookup goal = false ∧
      (roads blocked).Reachable start goal) ∧
    (a.success = true → ∃ n : ℕ, a.cost = Float.ofNat n ∧ (roads blocked).dist start goal ≤ n ∧
      n ≤ max 1 weight * (roads blocked).dist start goal) := by
  dsimp only
  by_cases h : blocked.lookup start = false ∧ blocked.lookup goal = false
  · rw [plan_of_free h.1 h.2]
    have hest (c : Cell width height) : (straight blocked start goal weight hypot).estimate c.toPoint =
        Float.ofNat (toGoal weight goal c) := estimate_straight hroom c
    have hb := Progress.bounded_start hroom h.1 hest
    refine ⟨hb.success.trans ?_, hb.cost⟩
    exact ⟨fun hr => ⟨h.1, h.2, hr⟩, fun hr => hr.2.2⟩
  · rw [plan_of_blocked h]
    exact ⟨iff_of_false Bool.false_ne_true fun hf => h ⟨hf.1, hf.2.1⟩, fun hf => (Bool.false_ne_true hf).elim⟩

end Query

end Navigation.Search
