import Navigation.Proofs.Replanning.Expansion

/-!
Why a search ends. The keys that are taken never decrease, and a cell that agrees with its lookahead
before all queued keys is done with. Every other cell has an allowance of at most three rounds, one of
which only an old key can take, and each round uses up one of the cell it takes.
-/

namespace Navigation.Replanning.Planner

variable {width height : ℕ} {s s' : Planner width height} {c d u : Cell width height}
  {e : Entry width height} {x y : ℕ∞ ×ₗ ℕ∞}

structure Round (s : Planner width height) (u : Cell width height) (x : ℕ∞ ×ₗ ℕ∞)
    (s' : Planner width height) : Prop where
  before : s.Coherent ∅
  after : s'.Coherent ∅
  heads : s.Heads u x
  expands : s.Expands u s'

lemma Coherent.round (h : s.Coherent ∅) (hs : s.step = some (e, s')) : ∃ x, s.Round e.cell x s' := by
  obtain ⟨hc, he, x, hx⟩ := h.step hs
  exact ⟨x, h, hc, hx, he⟩

/-- The cell agrees with its lookahead, and nothing queued comes before it. -/
def Frozen (s : Planner width height) (c : Cell width height) : Prop :=
  s.g c = s.rhs c ∧ ∀ d y, s.Stored d y → s.key c ≤ y

def Stale (s : Planner width height) (c : Cell width height) : Prop := ∃ x, s.Stored c x ∧ x ≠ s.key c

namespace Round

variable (h : s.Round u x s')

include h

lemma g_of_ne (hd : d ≠ u) : s'.g d = s.g d := by rw [h.expands.g, if_neg hd]

lemma least_le_g : s.least u ≤ s'.g u := by
  rw [h.expands.g, if_pos rfl, outcome]
  split
  · exact min_le_right _ _
  · exact le_top

lemma lag (d : Cell width height) : s'.lag d = s.lag d := h.expands.toAlike.lag

lemma rhs_eq (d : Cell width height) : s'.rhs d = ahead s.graph s.goal s'.g d := by
  rw [h.after.rhs d (Set.notMem_empty d), due, h.expands.toAlike.graph, h.expands.goal]

lemma rhs_of_not_adj (hd : ¬ s.graph.Adj d u) : s'.rhs d = s.rhs d := by
  rw [h.rhs_eq, h.before.rhs d (Set.notMem_empty d), due]
  refine ahead_congr fun e he => h.g_of_ne ?_
  rintro rfl
  exact hd he

lemma rhs_self : s'.rhs u = s.rhs u := h.rhs_of_not_adj not_adj_self

lemma rhs_ne (hd : s'.rhs d ≠ s.rhs d) : s.graph.Adj d u ∧ s.least u + 1 ≤ s.rhs d ∧
    s.least u + 1 ≤ s'.rhs d := by
  refine ⟨by_contra fun hadj => hd (h.rhs_of_not_adj hadj), ?_⟩
  rw [h.rhs_eq, h.before.rhs d (Set.notMem_empty d), due] at hd ⊢
  refine (ahead_eq_or_le (fun e he => ?_) (min_le_left _ _) h.least_le_g).resolve_left hd
  exact (h.g_of_ne he).symm

lemma lt_of_adj (hd : s.graph.Adj d u) {a : ℕ∞} (ha : s.least u + 1 ≤ a) :
    x < toLex (a + s.lag d, a) := by
  have hlt : s.least u < a := (ENat.lt_add_one_iff h.heads.stored.finite).mpr le_rfl |>.trans_le ha
  have hlag : s.lag u ≤ s.lag d + 1 := by
    have hm := roads.manhattan_le_succ hd s.start
    rw [Planner.lag, Planner.lag]
    omega
  refine h.heads.stored.le_key.trans_lt (Prod.Lex.lt_iff.mpr ?_)
  have hfirst : s.least u + s.lag u ≤ a + s.lag d :=
    calc s.least u + s.lag u ≤ s.least u + (s.lag d + 1 : ℕ) :=
          add_le_add_right (Nat.cast_le.mpr hlag) _
      _ = s.least u + 1 + s.lag d := by
          rw [Nat.cast_add, Nat.cast_one, add_comm (s.lag d : ℕ∞), add_assoc]
      _ ≤ a + s.lag d := add_le_add_left ha _
  rcases hfirst.lt_or_eq with hlt' | heq
  · exact Or.inl hlt'
  · exact Or.inr ⟨heq, hlt⟩

lemma least_le_self : s.least u ≤ s'.least u := by
  rw [least, least, h.rhs_self, ← least]
  exact le_min h.least_le_g (min_le_right _ _)

lemma le_key_self : x ≤ s'.key u := by
  refine h.heads.stored.le_key.trans ?_
  rw [key, key, h.lag]
  exact Prod.Lex.toLex_mono ⟨add_le_add_left h.least_le_self _, h.least_le_self⟩

lemma stored_of_same (hd : d ≠ u) (hq : s.queued d = some (Key.of y)) (hr : s'.rhs d = s.rhs d)
    (hy : s'.Stored d y) : s.Stored d y where
  queued := hq
  cost := by rw [hy.cost, least, h.g_of_ne hd, hr, least]
  finite := by
    have hf := hy.finite
    rwa [least, h.g_of_ne hd, hr] at hf
  le := by
    have hle := hy.le
    rwa [least, h.g_of_ne hd, hr, h.lag] at hle
  bounded := by
    have hb := hy.bounded
    rwa [key, least, h.g_of_ne hd, hr, h.lag, h.expands.toAlike.moved] at hb

lemma stored (hy : s'.Stored d y) :
    (d ≠ u ∧ s.Stored d y ∧ s'.rhs d = s.rhs d) ∨ y = s'.key d := by
  rcases h.expands.queued d _ hy.queued with ⟨hd, hq, hr⟩ | hf
  · exact Or.inl ⟨hd, h.stored_of_same hd hq hr hy, hr⟩
  · refine Or.inr (hy.unique (stored_key ?_ hy.finite) h.after.exact)
    rw [hy.queued, hf]

lemma key_eq (hd : d ≠ u) (hr : s'.rhs d = s.rhs d) : s'.key d = s.key d := by
  rw [key, key, least, least, h.g_of_ne hd, hr, h.lag]

lemma le_stored (hy : s'.Stored d y) : x ≤ y := by
  rcases h.stored hy with ⟨-, hs, -⟩ | rfl
  · exact h.heads.le d y hs
  by_cases hd : d = u
  · rw [hd]
    exact h.le_key_self
  by_cases hr : s'.rhs d = s.rhs d
  · have hne := h.after.ne_of_stored hy
    rw [h.g_of_ne hd, hr] at hne
    obtain ⟨z, hz⟩ := h.before.exists_stored hne
    rw [h.key_eq hd hr]
    exact (h.heads.le d z hz).trans hz.le_key
  -- the lookahead has moved, but the key has only if the estimate does not hide it
  obtain ⟨hadj, hlt, hlt'⟩ := h.rhs_ne hr
  rcases lt_or_ge (s.g d) (s.least u + 1) with hg | hg
  · obtain ⟨z, hz⟩ := h.before.exists_stored (hg.trans_le hlt).ne
    have hl : s'.least d = s.least d := by
      rw [least, least, h.g_of_ne hd, min_eq_left (hg.trans_le hlt').le,
        min_eq_left (hg.trans_le hlt).le]
    rw [key, hl, h.lag]
    exact (h.heads.le d z hz).trans hz.le_key
  · rw [key, h.lag]
    have hl : s.least u + 1 ≤ s'.least d := le_min ((h.g_of_ne hd).symm ▸ hg) hlt'
    exact (h.lt_of_adj hadj hl).le

lemma frozen (hc : s.Frozen c) : s'.Frozen c := by
  have hcu : c ≠ u := by
    rintro rfl
    exact h.before.ne_of_stored h.heads.stored hc.1
  have hx := hc.2 u x h.heads.stored
  have hr : s'.rhs c = s.rhs c := by
    by_contra hr
    obtain ⟨hadj, hle, -⟩ := h.rhs_ne hr
    refine (h.lt_of_adj hadj hle).not_ge ?_
    rwa [key, least, hc.1, min_self] at hx
  refine ⟨by rw [h.g_of_ne hcu, hr, hc.1], fun d y hy => ?_⟩
  rw [h.key_eq hcu hr]
  exact hx.trans (h.le_stored hy)

lemma not_stale_self : ¬ s'.Stale u := by
  rintro ⟨y, hy, hne⟩
  rcases h.stored hy with ⟨hu, -, -⟩ | he
  · exact hu rfl
  · exact hne he

lemma stale (hd : s'.Stale d) : s.Stale d := by
  obtain ⟨y, hy, hne⟩ := hd
  rcases h.stored hy with ⟨hu, hs, hr⟩ | he
  · exact ⟨y, hs, by rwa [← h.key_eq hu hr]⟩
  · exact (hne he).elim

lemma frozen_self (hover : s.rhs u < s.g u) (hx : x = s.key u) : s'.Frozen u := by
  have hg : s'.g u = s.rhs u := by rw [h.expands.g, if_pos rfl, outcome, if_pos hover]
  have hkey : s'.key u = x := by
    rw [hx, key, key, least, least, h.rhs_self, hg, h.lag, min_self, min_eq_right hover.le]
  refine ⟨by rw [hg, h.rhs_self], fun d y hy => ?_⟩
  rw [hkey]
  exact h.le_stored hy

end Round

open scoped Classical in
/-- How often the cell can still be taken. -/
noncomputable def allowance (s : Planner width height) (c : Cell width height) : ℕ :=
  if s.Frozen c then 0 else if s.Stale c then 3 else if s.g c = ⊤ then 1 else 2

lemma allowance_le (s : Planner width height) (c : Cell width height) : s.allowance c ≤ 3 := by
  rw [allowance]
  split_ifs <;> omega

lemma allowance_le_two (hc : ¬ s.Stale c) : s.allowance c ≤ 2 := by
  rw [allowance, if_neg hc]
  split_ifs <;> omega

lemma allowance_le_one (hc : ¬ s.Stale c) (hg : s.g c = ⊤) : s.allowance c ≤ 1 := by
  rw [allowance, if_neg hc, if_pos hg]
  split_ifs <;> omega

namespace Round

variable (h : s.Round u x s')

include h

lemma allowance_le_of_ne (hc : c ≠ u) : s'.allowance c ≤ s.allowance c := by
  by_cases hf : s.Frozen c
  · rw [allowance, if_pos (h.frozen hf)]
    exact Nat.zero_le _
  by_cases hs : s.Stale c
  · rw [allowance.eq_def s, if_neg hf, if_pos hs]
    exact allowance_le s' c
  have hs' : ¬ s'.Stale c := fun hst => hs (h.stale hst)
  rw [allowance.eq_def s, if_neg hf, if_neg hs]
  split
  · rename_i hg
    exact allowance_le_one hs' (by rw [h.g_of_ne hc, hg])
  · exact allowance_le_two hs'

lemma allowance_lt : s'.allowance u < s.allowance u := by
  have hf : ¬ s.Frozen u := fun hf => h.before.ne_of_stored h.heads.stored hf.1
  have hs' := h.not_stale_self
  -- from an old key the cell goes down to two, from too low an estimate to one, and else to none
  by_cases hx : x = s.key u
  · have hs : ¬ s.Stale u := by
      rintro ⟨y, hy, hne⟩
      exact hne (hx ▸ hy.unique h.heads.stored h.before.exact)
    rw [allowance.eq_def s, if_neg hf, if_neg hs]
    by_cases hover : s.rhs u < s.g u
    · rw [allowance, if_pos (h.frozen_self hover hx)]
      split <;> omega
    · have hunder := lt_of_le_of_ne (not_lt.mp hover) (h.before.ne_of_stored h.heads.stored)
      have hg : s'.g u = ⊤ := by rw [h.expands.g, if_pos rfl, outcome, if_neg hover]
      rw [if_neg hunder.ne_top]
      have := allowance_le_one hs' hg
      omega
  · have hs : s.Stale u := ⟨x, h.heads.stored, hx⟩
    rw [allowance.eq_def s, if_neg hf, if_pos hs]
    have := allowance_le_two hs'
    omega

end Round

def trace : ℕ → Planner width height → List (Entry width height)
  | 0, _ => []
  | fuel + 1, s => match s.step with
    | none => []
    | some (e, s') => e :: trace fuel s'

def rest : ℕ → Planner width height → Planner width height
  | 0, s => s
  | fuel + 1, s => match s.step with
    | none => s
    | some (_, s') => rest fuel s'

lemma searchFrom_eq (fuel n : ℕ) (s : Planner width height) :
    searchFrom fuel n s = (rest fuel s, n + (trace fuel s).length) := by
  induction fuel generalizing n s with
  | zero => rfl
  | succ fuel ih =>
    rw [searchFrom, rest, trace]
    unfold step
    cases hp : s.queue.pop? with
    | none => rfl
    | some p =>
      obtain ⟨e, q⟩ := p
      dsimp only
      split
      · rfl
      · rw [ih, List.length_cons]
        congr 1
        omega

lemma length_trace_le (fuel : ℕ) (s : Planner width height) : (trace fuel s).length ≤ fuel := by
  induction fuel generalizing s with
  | zero => rfl
  | succ fuel ih =>
    rw [trace]
    split
    · exact Nat.zero_le _
    · exact Nat.succ_le_succ (ih _)

lemma step_rest_of_lt {fuel : ℕ} (h : (trace fuel s).length < fuel) : (rest fuel s).step = none := by
  induction fuel generalizing s with
  | zero => exact (Nat.not_lt_zero _ h).elim
  | succ fuel ih =>
    rw [trace] at h
    rw [rest]
    split
    · rename_i hs
      exact hs
    · rename_i e s' hs
      rw [hs] at h
      exact ih (Nat.lt_of_succ_lt_succ h)

lemma rest_of_le {fuel n : ℕ} (h : (rest fuel s).step = none) (hn : fuel ≤ n) :
    rest n s = rest fuel s ∧ trace n s = trace fuel s := by
  induction fuel generalizing s n with
  | zero =>
    rw [rest] at h
    cases n with
    | zero => exact ⟨rfl, rfl⟩
    | succ n =>
      have hr : rest (n + 1) s = s := by rw [rest, h]
      have ht : trace (n + 1) s = [] := by rw [trace, h]
      exact ⟨hr, ht⟩
  | succ fuel ih =>
    obtain ⟨n, rfl⟩ := Nat.exists_eq_add_of_lt hn
    rw [rest] at h
    rw [rest, rest, trace, trace]
    cases hs : s.step with
    | none => exact ⟨rfl, rfl⟩
    | some p =>
      rw [hs] at h
      obtain ⟨hr, ht⟩ := ih (n := fuel + n) h (Nat.le_add_right _ _)
      exact ⟨hr, congrArg (p.1 :: ·) ht⟩

lemma searchFrom_of_le {fuel n : ℕ} (h : (rest fuel s).step = none) (hn : fuel ≤ n) :
    searchFrom n 0 s = searchFrom fuel 0 s := by
  obtain ⟨hr, ht⟩ := rest_of_le h hn
  rw [searchFrom_eq, searchFrom_eq, hr, ht]

lemma rest_induction {I : Planner width height → Prop} (hI : ∀ s e s', I s → s.step = some (e, s') → I s')
    (h : I s) (fuel : ℕ) : I (rest fuel s) := by
  induction fuel generalizing s with
  | zero => exact h
  | succ fuel ih =>
    rw [rest]
    split
    · exact h
    · rename_i e s' hs
      exact ih (hI s e s' h hs)

lemma Alike.rest (fuel : ℕ) (s : Planner width height) : s.Alike (Planner.rest fuel s) :=
  rest_induction (I := s.Alike) (fun _ _ _ h hs => h.trans (step hs)) (refl s) fuel

namespace Coherent

lemma rest (h : s.Coherent ∅) (fuel : ℕ) : (Planner.rest fuel s).Coherent ∅ :=
  rest_induction (I := fun s => s.Coherent ∅) (fun _ _ _ h hs => (h.step hs).1) h fuel

lemma count_trace (h : s.Coherent ∅) (fuel : ℕ) (c : Cell width height) :
    ((trace fuel s).map Entry.cell).count c ≤ s.allowance c := by
  induction fuel generalizing s with
  | zero => exact Nat.zero_le _
  | succ fuel ih =>
    rw [trace]
    split
    · exact Nat.zero_le _
    · rename_i e s' hs
      obtain ⟨x, hr⟩ := h.round hs
      have hle := ih hr.after
      rw [List.map_cons, List.count_cons]
      by_cases hc : c = e.cell
      · subst c
        have hlt := hr.allowance_lt
        rw [if_pos (beq_self_eq_true _)]
        omega
      · have hge := hr.allowance_le_of_ne hc
        rw [if_neg (by simpa using fun he => hc he.symm)]
        omega

lemma sum_allowance_lt (h : s.Coherent ∅) (hs : s.step = some (e, s')) :
    ∑ c, s'.allowance c < ∑ c, s.allowance c := by
  obtain ⟨x, hr⟩ := h.round hs
  refine Finset.sum_lt_sum (fun c _ => ?_) ⟨e.cell, Finset.mem_univ _, hr.allowance_lt⟩
  by_cases hc : c = e.cell
  · rw [hc]
    exact hr.allowance_lt.le
  · exact hr.allowance_le_of_ne hc

lemma step_rest (h : s.Coherent ∅) {fuel : ℕ} (hf : ∑ c, s.allowance c ≤ fuel) :
    (Planner.rest fuel s).step = none := by
  induction fuel generalizing s with
  | zero =>
    rw [Planner.rest]
    by_contra hne
    obtain ⟨⟨e, s'⟩, hs⟩ := Option.ne_none_iff_exists'.mp hne
    have := h.sum_allowance_lt hs
    omega
  | succ fuel ih =>
    rw [Planner.rest]
    split
    · rename_i hs
      exact hs
    · rename_i e s' hs
      have hlt := h.sum_allowance_lt hs
      exact ih (h.step hs).1 (by omega)

end Coherent

end Navigation.Replanning.Planner
