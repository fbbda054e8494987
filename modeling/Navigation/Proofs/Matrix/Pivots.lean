import Mathlib
import Navigation.Matrix.Elimination
import Navigation.Proofs.Matrix.Exact

namespace Navigation

namespace Table

variable {m n l : ℕ} {α : Type}

@[simp] lemma get_swapRows (t : Table m n α) (r s i : Fin m) (j : Fin n) :
    (t.swapRows r s).get i j = t.get (if i = r then s else if i = s then r else i) j := get_ofFn _ i j

@[simp] lemma swapRows_self (t : Table m n α) (r : Fin m) : t.swapRows r r = t := by
  ext i j
  rw [get_swapRows]
  split
  · rename_i h
    rw [h]
  · rfl

variable [Scalar α] {s : Table m n α} {t : Table m l α} {k : Fin m} {c : Fin n} {d : Fin l}

def prefer (t : Table m n α) (k : Fin m) (c : Fin n) (best r : Fin m) : Fin m :=
  if k < r && Scalar.lt (Scalar.abs (t.get best c)) (Scalar.abs (t.get r c)) then r else best

lemma pivotRow_eq (t : Table m n α) (k : Fin m) (c : Fin n) :
    t.pivotRow k c = (List.finRange m).foldl (t.prefer k c) k := by
  rw [pivotRow, Fin.foldl_eq_foldl_finRange]
  rfl

lemma foldl_prefer_congr (h : ∀ i, k ≤ i → s.get i c = t.get i d) (rows : List (Fin m)) {best : Fin m}
    (hbest : k ≤ best) : rows.foldl (s.prefer k c) best = rows.foldl (t.prefer k d) best ∧
      k ≤ rows.foldl (s.prefer k c) best := by
  induction rows generalizing best with
  | nil => exact ⟨rfl, hbest⟩
  | cons r rows ih =>
    have hle : k ≤ s.prefer k c best r := by
      unfold prefer
      split
      · rename_i hr
        exact (of_decide_eq_true (Bool.and_eq_true_iff.mp hr).1).le
      · exact hbest
    have heq : s.prefer k c best r = t.prefer k d best r := by
      by_cases hr : k < r
      · rw [prefer, prefer, h best hbest, h r hr.le]
      · simp [prefer, hr]
    rw [List.foldl_cons, List.foldl_cons, ← heq]
    exact ih hle

lemma pivotRow_congr (h : ∀ i, k ≤ i → s.get i c = t.get i d) : s.pivotRow k c = t.pivotRow k d := by
  rw [pivotRow_eq, pivotRow_eq]
  exact (foldl_prefer_congr h _ le_rfl).1

lemma le_pivotRow (s : Table m n α) (k : Fin m) (c : Fin n) : k ≤ s.pivotRow k c := by
  rw [pivotRow_eq]
  exact (foldl_prefer_congr (t := s) (fun _ _ => rfl) _ le_rfl).2

end Table

namespace Factors

section

variable {n start : ℕ} {α : Type} [Scalar α] {f : Factors n α} {i j k : Fin n} {rows : List (Fin n)}

def Upward (start : ℕ) (rows : List (Fin n)) : Prop :=
  rows.map Fin.val = List.range' start (n - start)

namespace Upward

lemma finRange : Upward 0 (List.finRange n) := by
  rw [Upward, List.map_coe_finRange_eq_range, List.range_eq_range', Nat.sub_zero]

lemma le_of_nil (h : Upward (n := n) start []) : n ≤ start := by
  have hlen := congrArg List.length h
  rw [List.length_map, List.length_range', List.length_nil] at hlen
  omega

lemma of_cons (h : Upward start (k :: rows)) : start = k ∧ Upward (start + 1) rows := by
  have hlen := congrArg List.length h
  rw [List.length_map, List.length_range', List.length_cons] at hlen
  have hsize : n - start = n - (start + 1) + 1 := by omega
  rw [Upward, hsize, List.map_cons, List.range'_succ, List.cons.injEq] at h
  exact ⟨h.1.symm, h.2⟩

lemma le_of_mem (h : Upward start rows) : ∀ k ∈ rows, start ≤ k.val := fun _ hk =>
  (List.mem_range'_1.mp (h ▸ List.mem_map_of_mem hk)).1

end Upward

lemma lu_pivot : (f.pivot k).lu = f.lu.swapRows k (f.lu.pivotRow k k) := by
  unfold pivot
  dsimp only
  split
  · rename_i h
    rw [h, Table.swapRows_self]
  · rfl

lemma get_pivot_of_lt (h : i < k) : (f.pivot k).lu.get i j = f.lu.get i j := by
  have hp := f.lu.le_pivotRow k k
  rw [lu_pivot, Table.get_swapRows, if_neg h.ne, if_neg (h.trans_le hp).ne]

lemma get_pivot_self : (f.pivot k).lu.get k j = f.lu.get (f.lu.pivotRow k k) j := by
  rw [lu_pivot, Table.get_swapRows, if_pos rfl]

lemma get_stage_of_le (h : i ≤ k) : (f.stage k).lu.get i j = (f.pivot k).lu.get i j := by
  unfold stage
  dsimp only
  split
  · rfl
  · rw [eliminate, Table.get_ofFn, if_neg h.not_gt]

lemma perm_stage : (f.stage k).perm = (f.pivot k).perm := by
  unfold stage
  dsimp only
  split <;> rfl

lemma sign_stage : (f.stage k).sign = (f.pivot k).sign := by
  unfold stage
  dsimp only
  split <;> rfl

lemma get_foldl_stage (hrows : ∀ k ∈ rows, start ≤ k.val) (hi : i.val < start) :
    (rows.foldl stage f).lu.get i j = f.lu.get i j := by
  induction rows generalizing f with
  | nil => rfl
  | cons k rows ih =>
    have hk : i < k := hi.trans_le (hrows k List.mem_cons_self)
    rw [List.foldl_cons, ih fun r hr => hrows r (List.mem_cons_of_mem k hr), get_stage_of_le hk.le,
      get_pivot_of_lt hk]

lemma ofTable_eq (t : Table n n α) :
    ofTable t = (List.finRange n).foldl stage ⟨t, Vector.ofFn id, 1⟩ := by
  rw [ofTable, Fin.foldl_eq_foldl_finRange]

end

end Factors

namespace Table

variable {n : ℕ} {α : Type} [Scalar α]

def clear (t : Table n (n + n) α) (k : Fin n) : Except (DenseMatrix.Error α) (Table n (n + n) α) :=
  let p := t.pivotRow k (k.castAdd n)
  if Scalar.negligible (t.get p (k.castAdd n)) then .error (.singular k (t.get p (k.castAdd n)))
  else .ok ((t.swapRows k p).reduce k)

lemma inverse_eq (t : Table n n α) : t.inverse =
    ((List.finRange n).foldlM clear t.augment).map fun r => ofFn fun i j => r.get i (Fin.natAdd n j) := by
  have hclear : (fun (t : Table n (n + n) α) (k : Fin n) =>
      let c : Fin (n + n) := k.castAdd n
      let p := t.pivotRow k c
      if Scalar.negligible (t.get p c) then .error (.singular k (t.get p c))
      else .ok ((if p = k then t else t.swapRows k p).reduce k)) =
      (clear : _ → _ → Except (DenseMatrix.Error α) _) := by
    funext t k
    rw [clear]
    dsimp only
    split
    · rfl
    · split
      · rename_i h
        rw [h, swapRows_self]
      · rfl
  rw [inverse, hclear]
  rfl

end Table

namespace Factors

variable {n : ℕ} {K : Type} [Field K] [LinearOrder K] [Rooted K] {f : Factors n K}
  {t : Table n (n + n) K} {i j k : Fin n} {start : ℕ}

/-- The two eliminations have the same entries from row and column `start` on. -/
def Meets (start : ℕ) (f : Factors n K) (t : Table n (n + n) K) : Prop :=
  ∀ i j : Fin n, start ≤ i.val → start ≤ j.val → f.lu.get i j = t.get i (j.castAdd n)

lemma Meets.pivotRow (h : Meets k f t) : f.lu.pivotRow k k = t.pivotRow k (k.castAdd n) :=
  Table.pivotRow_congr fun i hi => h i k hi le_rfl

lemma Meets.get_swapRows (h : Meets k f t) (hi : k ≤ i) (hj : k ≤ j) :
    (f.pivot k).lu.get i j = (t.swapRows k (t.pivotRow k (k.castAdd n))).get i (j.castAdd n) := by
  have hp := t.le_pivotRow k (k.castAdd n)
  rw [lu_pivot, h.pivotRow, Table.get_swapRows, Table.get_swapRows]
  refine h _ j ?_ hj
  split
  · exact hp
  · split
    · exact le_rfl
    · exact hi

lemma get_stage_of_lt (hp : Scalar.negligible ((f.pivot k).lu.get k k) = false) (hi : k < i) (hj : k < j) :
    (f.stage k).lu.get i j = (f.pivot k).lu.get i j -
      (f.pivot k).lu.get i k / (f.pivot k).lu.get k k * (f.pivot k).lu.get k j := by
  unfold stage
  dsimp only
  rw [hp, if_neg Bool.false_ne_true, eliminate, Table.get_ofFn, if_pos hi, if_neg hj.ne']
  by_cases hz : (f.pivot k).lu.get i k / (f.pivot k).lu.get k k = 0
  · simp [hz]
  · simp [hz, hj]

lemma get_reduce_of_ne {t : Table n (n + n) K} (hi : i ≠ k) (c : Fin (n + n)) :
    (t.reduce k).get i c =
      t.get i c - t.get i (k.castAdd n) * (t.get k c / t.get k (k.castAdd n)) := by
  rw [Table.reduce, Table.get_ofFn, if_neg hi]
  by_cases hz : t.get i (k.castAdd n) = 0
  · simp [hz]
  · simp [hz]

lemma Meets.stage (h : Meets k f t) :
    (∃ p, t.clear k = .error (.singular k p)) ∧ Scalar.negligible ((f.stage k).lu.get k k) = true ∨
    (∃ t', t.clear k = .ok t' ∧ Meets (k + 1) (f.stage k) t') ∧
      Scalar.negligible ((f.stage k).lu.get k k) = false := by
  have hpivot : (f.pivot k).lu.get k k = t.get (t.pivotRow k (k.castAdd n)) (k.castAdd n) := by
    rw [h.get_swapRows le_rfl le_rfl, Table.get_swapRows, if_pos rfl]
  rw [Table.clear, get_stage_of_le le_rfl, ← hpivot]
  cases hn : Scalar.negligible ((f.pivot k).lu.get k k) with
  | true => exact Or.inl ⟨⟨_, if_pos rfl⟩, rfl⟩
  | false =>
    refine Or.inr ⟨⟨_, if_neg Bool.false_ne_true, fun i j hi hj => ?_⟩, rfl⟩
    have hi : k < i := hi
    have hj : k < j := hj
    rw [get_stage_of_lt hn hi hj, get_reduce_of_ne hi.ne', h.get_swapRows hi.le hj.le,
      h.get_swapRows hi.le le_rfl, h.get_swapRows le_rfl hj.le, h.get_swapRows le_rfl le_rfl]
    ring

lemma Meets.foldlM_clear {rows : List (Fin n)} (hrows : Upward start rows) (h : Meets start f t) :
    (∃ t', rows.foldlM Table.clear t = .ok t') ∧
        (∀ i : Fin n, start ≤ i.val → Scalar.negligible ((rows.foldl Factors.stage f).lu.get i i) = false) ∨
      (∃ i p, rows.foldlM Table.clear t = .error (.singular i p)) ∧
        ∃ i : Fin n, start ≤ i.val ∧ Scalar.negligible ((rows.foldl Factors.stage f).lu.get i i) = true := by
  induction rows generalizing start f t with
  | nil => exact Or.inl ⟨⟨t, rfl⟩, fun i hi => absurd i.isLt (hrows.le_of_nil.trans hi).not_gt⟩
  | cons k rows ih =>
    obtain ⟨rfl, hrest⟩ := hrows.of_cons
    have hkeep : ((k :: rows).foldl Factors.stage f).lu.get k k = (f.stage k).lu.get k k :=
      get_foldl_stage hrest.le_of_mem (Nat.lt_succ_self k)
    rcases h.stage with ⟨⟨p, hp⟩, hn⟩ | ⟨⟨t', ht', hm⟩, hn⟩
    · exact Or.inr ⟨⟨k, p, by rw [List.foldlM_cons, hp]; rfl⟩, k, le_rfl, by rw [hkeep, hn]⟩
    · have hfold : (k :: rows).foldlM Table.clear t = rows.foldlM Table.clear t' := by
        rw [List.foldlM_cons, ht']
        rfl
      rw [hfold, List.foldl_cons]
      refine (ih hrest hm).imp (And.imp_right fun hall i hi => ?_)
        (And.imp_right fun ⟨i, hi, hin⟩ => ⟨i, Nat.le_of_succ_le hi, hin⟩)
      rcases Nat.eq_or_lt_of_le hi with he | hlt
      · obtain rfl := Fin.ext he
        exact (congrArg _ hkeep).trans hn
      · exact hall i hlt

lemma meets_augment (t : Table n n K) (perm : Vector (Fin n) n) (sign : K) :
    Meets 0 ⟨t, perm, sign⟩ t.augment := by
  intro i j _ _
  rw [Table.augment, Table.get_ofFn, dif_pos (show (j.castAdd n).val < n from j.isLt)]
  rfl

def Deficient (f : Factors n K) : Prop := ∃ i, Scalar.negligible (f.lu.get i i) = true

lemma deficient_ofTable (t : Table n n K) :
    (∃ t', t.inverse = .ok t') ∧ ¬(ofTable t).Deficient ∨
      (∃ k p, t.inverse = .error (.singular k p)) ∧ (ofTable t).Deficient := by
  have h := (meets_augment t (Vector.ofFn id) 1).foldlM_clear Upward.finRange
  rw [Table.inverse_eq, Deficient, ofTable_eq]
  refine h.imp ?_ ?_
  · rintro ⟨⟨t', ht⟩, hall⟩
    refine ⟨⟨_, by rw [ht]; rfl⟩, fun ⟨i, hi⟩ => ?_⟩
    rw [hall i (Nat.zero_le _)] at hi
    cases hi
  · rintro ⟨⟨k, p, hp⟩, i, -, hi⟩
    exact ⟨⟨k, p, by rw [hp]; rfl⟩, i, hi⟩

lemma sign_foldl_stage (rows : List (Fin n)) (h : f.sign ≠ 0) : (rows.foldl Factors.stage f).sign ≠ 0 := by
  induction rows generalizing f with
  | nil => exact h
  | cons k rows ih =>
    have hpivot : (f.pivot k).sign ≠ 0 := by
      unfold pivot
      dsimp only
      split
      · exact h
      · exact neg_ne_zero.mpr h
    refine ih ?_
    rwa [sign_stage]

lemma determinant_of_deficient (h : f.Deficient) : f.determinant = 0 := by
  obtain ⟨i, hi⟩ := h
  exact if_pos (List.any_eq_true.mpr ⟨i, List.mem_finRange i, hi⟩)

lemma determinant_of_not_deficient (h : ¬f.Deficient) : f.determinant = f.sign * ∏ i, f.lu.get i i := by
  have hany : ¬(List.finRange n).any (fun i => Scalar.negligible (f.lu.get i i)) = true := by
    rw [List.any_eq_true]
    rintro ⟨i, -, hi⟩
    exact h ⟨i, hi⟩
  rw [determinant, if_neg hany, Fin.foldl_eq_foldl_finRange, Fin.prod_univ_def]
  generalize f.sign = d
  induction List.finRange n generalizing d with
  | nil => rw [List.foldl_nil, List.map_nil, List.prod_nil, mul_one]
  | cons i rows ih => rw [List.foldl_cons, ih, List.map_cons, List.prod_cons, mul_assoc]

lemma pivot_ne_zero [IsStrictOrderedRing K] (h : ¬f.Deficient) (i : Fin n) : f.lu.get i i ≠ 0 :=
  Scalar.ne_zero_of_not_negligible (Bool.eq_false_iff.mpr fun hi => h ⟨i, hi⟩)

lemma determinant_eq_zero_iff [IsStrictOrderedRing K] (h : f.sign ≠ 0) : f.determinant = 0 ↔ f.Deficient := by
  by_cases hd : f.Deficient
  · exact iff_of_true (determinant_of_deficient hd) hd
  · rw [determinant_of_not_deficient hd]
    exact iff_of_false (mul_ne_zero h (Finset.prod_ne_zero_iff.mpr fun i _ => pivot_ne_zero hd i)) hd

lemma solve_cases {m : ℕ} (f : Factors n K) (b : Table n m K) (hm : 0 < m) :
    (∃ x, f.solve b = .ok x) ∧ ¬f.Deficient ∨ (∃ k p, f.solve b = .error (.singular k p)) ∧ f.Deficient := by
  unfold solve
  split
  · rename_i i hi
    have hn : Scalar.negligible (f.lu.get i i) = true := by
      unfold singularRow? at hi
      simpa using List.find?_some hi
    exact Or.inr ⟨⟨i, _, if_neg hm.ne'⟩, i, hn⟩
  · rename_i hnone
    refine Or.inl ⟨⟨_, rfl⟩, fun ⟨i, hi⟩ => ?_⟩
    exact List.find?_eq_none.mp hnone i (List.mem_reverse.mpr (List.mem_finRange i)) hi

end Factors

namespace DenseMatrix

section

variable {n m : ℕ} {α : Type} [Scalar α] {t : Table n n α} {s : Table n m α}

omit [Scalar α] in
lemma square_eq (op : Operation) : (⟨n, n, t⟩ : DenseMatrix α).square op = .ok t := dif_pos rfl

lemma inverse_eq : (⟨n, n, t⟩ : DenseMatrix α).inverse = t.inverse.map (⟨n, n, ·⟩) := by
  rw [inverse, square_eq]
  rfl

lemma solve_eq : (⟨n, n, t⟩ : DenseMatrix α).solve ⟨n, m, s⟩ =
    ((Factors.ofTable t).solve s).map (⟨n, m, ·⟩) := by
  rw [solve, square_eq]
  exact dif_pos rfl

lemma determinant_eq : (⟨n, n, t⟩ : DenseMatrix α).determinant = .ok (Factors.ofTable t).determinant := by
  rw [determinant, square_eq]
  rfl

end

variable {K : Type} [Field K] [LinearOrder K] [IsStrictOrderedRing K] [Rooted K]

/-- A square matrix is singular for its inverse, for the solution of a right-hand side with at least one
column and for its determinant alike. -/
theorem singular_iff (a b : DenseMatrix K) (hsquare : a.cols = a.rows) (hrows : b.rows = a.rows)
    (hcols : 0 < b.cols) :
    ((∃ k p, a.inverse = .error (.singular k p)) ↔ ∃ k p, a.solve b = .error (.singular k p)) ∧
    ((∃ k p, a.solve b = .error (.singular k p)) ↔ a.determinant = .ok 0) := by
  obtain ⟨n, cols, t⟩ := a
  obtain ⟨rows, m, s⟩ := b
  obtain rfl : cols = n := hsquare
  obtain rfl : rows = cols := hrows
  have hsign : (Factors.ofTable t).sign ≠ 0 := by
    rw [Factors.ofTable_eq]
    exact Factors.sign_foldl_stage _ one_ne_zero
  have hdet : (⟨rows, rows, t⟩ : DenseMatrix K).determinant = .ok 0 ↔ (Factors.ofTable t).Deficient := by
    rw [determinant_eq, Except.ok.injEq, Factors.determinant_eq_zero_iff hsign]
  have hsolve : (∃ k p, (⟨rows, rows, t⟩ : DenseMatrix K).solve ⟨rows, m, s⟩ = .error (.singular k p)) ↔
      (Factors.ofTable t).Deficient := by
    rw [solve_eq]
    rcases (Factors.ofTable t).solve_cases s hcols with ⟨⟨x, hx⟩, hd⟩ | ⟨⟨k, p, hp⟩, hd⟩
    · exact iff_of_false (by rw [hx]; rintro ⟨k, p, h⟩; cases h) hd
    · exact iff_of_true ⟨k, p, by rw [hp]; rfl⟩ hd
  have hinverse : (∃ k p, (⟨rows, rows, t⟩ : DenseMatrix K).inverse = .error (.singular k p)) ↔
      (Factors.ofTable t).Deficient := by
    rw [inverse_eq]
    rcases Factors.deficient_ofTable t with ⟨⟨x, hx⟩, hd⟩ | ⟨⟨k, p, hp⟩, hd⟩
    · exact iff_of_false (by rw [hx]; rintro ⟨k, p, h⟩; cases h) hd
    · exact iff_of_true ⟨k, p, by rw [hp]; rfl⟩ hd
  exact ⟨hinverse.trans hsolve.symm, hsolve.trans hdet.symm⟩

def collinear : DenseMatrix ℚ := ⟨2, 2, Table.ofFn fun i j => (i + 1) * (j + 1)⟩

theorem singular_iff_collinear : (∃ k p, collinear.inverse = .error (.singular k p)) ∧
    ∃ k p, collinear.solve collinear = .error (.singular k p) := by
  have hdet : collinear.determinant = .ok 0 :=
    determinant_eq.trans (congrArg Except.ok (by decide +kernel))
  obtain ⟨hinverse, hsolve⟩ := singular_iff collinear collinear rfl rfl (by decide)
  exact ⟨hinverse.mpr (hsolve.mpr hdet), hsolve.mpr hdet⟩

end DenseMatrix

end Navigation
