import Mathlib
import Navigation.Proofs.Matrix.Pivots

/-! Triangular factors of a table with its rows permuted. -/

namespace Navigation

namespace Table

variable {m n : ℕ} {K : Type} [Field K] [LinearOrder K] [Rooted K] {t : Table m n K} {k r : Fin m} {c : Fin n}

lemma abs_get_le_prefer (t : Table m n K) (k : Fin m) (c : Fin n) (best r : Fin m) :
    |t.get best c| ≤ |t.get (t.prefer k c best r) c| ∧ (k < r → |t.get r c| ≤ |t.get (t.prefer k c best r) c|) := by
  simp only [prefer, Bool.and_eq_true, decide_eq_true_eq, Scalar.lt_iff, Scalar.abs_eq]
  split
  · rename_i h
    exact ⟨h.2.le, fun _ => le_rfl⟩
  · rename_i h
    exact ⟨le_rfl, fun hr => not_lt.mp fun hlt => h ⟨hr, hlt⟩⟩

lemma abs_get_le_foldl_prefer (t : Table m n K) (k : Fin m) (c : Fin n) (rows : List (Fin m)) (best : Fin m) :
    |t.get best c| ≤ |t.get (rows.foldl (t.prefer k c) best) c| ∧
      ∀ r ∈ rows, k < r → |t.get r c| ≤ |t.get (rows.foldl (t.prefer k c) best) c| := by
  induction rows generalizing best with
  | nil => exact ⟨le_rfl, nofun⟩
  | cons s rows ih =>
    obtain ⟨hbest, hrows⟩ := ih (t.prefer k c best s)
    have hprefer := abs_get_le_prefer t k c best s
    refine ⟨hprefer.1.trans hbest, fun r hr hkr => ?_⟩
    rcases List.mem_cons.mp hr with rfl | hr
    · exact (hprefer.2 hkr).trans hbest
    · exact hrows r hr hkr

lemma abs_get_le_pivotRow (h : k ≤ r) : |t.get r c| ≤ |t.get (t.pivotRow k c) c| := by
  rw [pivotRow_eq]
  obtain ⟨hk, hrows⟩ := t.abs_get_le_foldl_prefer k c (List.finRange m) k
  rcases h.eq_or_lt with rfl | hlt
  · exact hk
  · exact hrows r (List.mem_finRange r) hlt

end Table

namespace Factors

open Matrix

variable {n : ℕ} {K : Type} [Field K] [LinearOrder K] [Rooted K] {f : Factors n K} {t : Table n n K}
  {i j k : Fin n} {σ : Equiv.Perm (Fin n)}

def multipliers (f : Factors n K) (k : ℕ) : Matrix (Fin n) (Fin n) K :=
  Matrix.of fun i j => if j < i ∧ j.val < k then f.lu.get i j else 0

def lower (f : Factors n K) (k : ℕ) : Matrix (Fin n) (Fin n) K := 1 + f.multipliers k

def upper (f : Factors n K) (k : ℕ) : Matrix (Fin n) (Fin n) K := f.lu.matrix - f.multipliers k

def Splits (f : Factors n K) (k : ℕ) (t : Table n n K) : Prop :=
  f.lower k * f.upper k = t.matrix.submatrix f.perm.get id

def Permuted (f : Factors n K) (σ : Equiv.Perm (Fin n)) : Prop :=
  (∀ i, f.perm.get i = σ i) ∧ f.sign = ((Equiv.Perm.sign σ : ℤ) : K)

def exchange (f : Factors n K) (k : Fin n) : Equiv.Perm (Fin n) := Equiv.swap k (f.lu.pivotRow k k)

lemma get_lu_pivot : (f.pivot k).lu.get i j = f.lu.get (f.exchange k i) j := by
  rw [lu_pivot, Table.get_swapRows, exchange, Equiv.swap_apply_def]

lemma get_perm_pivot : (f.pivot k).perm.get i = f.perm.get (f.exchange k i) := by
  simp only [pivot, exchange]
  split
  · rename_i h
    rw [h, Equiv.swap_self, Equiv.refl_apply]
  · simp only [Vector.get_eq_getElem, Vector.getElem_swap, Equiv.swap_apply_def, Fin.ext_iff]
    split_ifs <;> rfl

lemma exchange_of_lt (h : i < k) : f.exchange k i = i :=
  Equiv.swap_apply_of_ne_of_ne h.ne (h.trans_le (f.lu.le_pivotRow k k)).ne

lemma le_exchange (h : k ≤ i) : k ≤ f.exchange k i := by
  rw [exchange, Equiv.swap_apply_def]
  split
  · exact f.lu.le_pivotRow k k
  · split
    · exact le_rfl
    · exact h

lemma Permuted.pivot (h : f.Permuted σ) : (f.pivot k).Permuted (σ * f.exchange k) := by
  refine ⟨fun i => get_perm_pivot.trans (h.1 _), ?_⟩
  simp only [Factors.pivot, exchange]
  split
  · rename_i hp
    rw [h.2, hp, Equiv.swap_self, ← Equiv.Perm.one_def, mul_one]
  · rename_i hp
    rw [Equiv.Perm.sign_mul, Equiv.Perm.sign_swap (Ne.symm hp), h.2]
    simp

lemma Permuted.stage (h : f.Permuted σ) : (f.stage k).Permuted (σ * f.exchange k) := by
  rw [Permuted, perm_stage, sign_stage]
  exact h.pivot

lemma Permuted.foldl_stage (h : f.Permuted σ) (rows : List (Fin n)) :
    ∃ τ, (rows.foldl Factors.stage f).Permuted τ := by
  induction rows generalizing f σ with
  | nil => exact ⟨σ, h⟩
  | cons k rows ih => exact ih h.stage

lemma lt_exchange_iff (h : j < k) : j < f.exchange k i ↔ j < i := by
  rcases lt_or_ge i k with hi | hi
  · rw [exchange_of_lt hi]
  · exact iff_of_true (h.trans_le (le_exchange hi)) (h.trans_le hi)

lemma multipliers_of_lt {k : ℕ} (h : j.val < k) : f.multipliers k i j = if j < i then f.lu.get i j else 0 := by
  simp [multipliers, h]

lemma multipliers_of_le {k : ℕ} (h : k ≤ j.val) : f.multipliers k i j = 0 := by
  simp [multipliers, h.not_gt]

lemma multipliers_pivot : (f.pivot k).multipliers k = (f.multipliers k).submatrix (f.exchange k) id := by
  ext i j
  rw [submatrix_apply, id]
  rcases lt_or_ge j k with hj | hj
  · simp only [multipliers_of_lt hj, get_lu_pivot, lt_exchange_iff hj]
  · rw [multipliers_of_le hj, multipliers_of_le hj]

lemma multipliers_exchange (e : Fin n → Fin n) :
    (f.multipliers k).submatrix e (f.exchange k) = (f.multipliers k).submatrix e id := by
  -- the columns that the swap moves have no multipliers yet
  ext i j
  rw [submatrix_apply, submatrix_apply, id]
  rcases lt_or_ge j k with hj | hj
  · rw [exchange_of_lt hj]
  · rw [multipliers_of_le hj, multipliers_of_le (le_exchange hj)]

lemma lower_pivot : (f.pivot k).lower k = (f.lower k).submatrix (f.exchange k) (f.exchange k) := by
  rw [lower, lower, multipliers_pivot, ← multipliers_exchange, submatrix_add, Pi.add_apply, Pi.add_apply,
    submatrix_one_equiv]

lemma upper_pivot : (f.pivot k).upper k = (f.upper k).submatrix (f.exchange k) id := by
  have hlu : (f.pivot k).lu.matrix = f.lu.matrix.submatrix (f.exchange k) id := by
    ext i j
    exact get_lu_pivot
  rw [upper, upper, multipliers_pivot, hlu]
  rfl

lemma Splits.pivot (h : f.Splits k t) : (f.pivot k).Splits k t := by
  rw [Splits, lower_pivot, upper_pivot, submatrix_mul_equiv, h]
  ext i j
  exact congrArg (t.get · j) get_perm_pivot.symm

def column (f : Factors n K) (k : Fin n) : Fin n → K := fun i =>
  if k < i then (f.pivot k).lu.get i k / (f.pivot k).lu.get k k else 0

lemma column_of_le (h : i ≤ k) : f.column k i = 0 := if_neg h.not_gt

lemma upper_apply (k : ℕ) : f.upper k i j = f.lu.get i j - f.multipliers k i j := rfl

lemma row_upper : (f.upper k).row k j = if j < k then 0 else f.lu.get k j := by
  rw [row_apply, upper_apply]
  rcases lt_or_ge j k with hj | hj
  · rw [multipliers_of_lt hj, if_pos hj, if_pos hj, sub_self]
  · rw [multipliers_of_le hj, if_neg hj.not_gt, sub_zero]

section

variable (hp : Scalar.negligible ((f.pivot k).lu.get k k) = false)
include hp

lemma get_stage_of_col_le (hi : k < i) (hj : j ≤ k) : (f.stage k).lu.get i j =
    if j = k then f.column k i else (f.pivot k).lu.get i j := by
  simp only [stage]
  rw [hp, if_neg Bool.false_ne_true, eliminate, Table.get_ofFn, if_pos hi, column, if_pos hi]
  split
  · rfl
  · simp [hj.not_gt]

lemma multipliers_stage : (f.stage k).multipliers (k + 1) =
    (f.pivot k).multipliers k + vecMulVec (f.column k) (Pi.single k 1) := by
  ext i j
  rw [Matrix.add_apply, vecMulVec_apply]
  rcases lt_trichotomy j k with hj | rfl | hj
  · rw [multipliers_of_lt (Nat.lt_succ_of_lt hj), multipliers_of_lt hj, Pi.single_eq_of_ne hj.ne, mul_zero, add_zero]
    rcases lt_or_ge k i with hi | hi
    · rw [get_stage_of_col_le hp hi hj.le, if_neg hj.ne]
    · rw [get_stage_of_le hi]
  · rw [multipliers_of_lt (Nat.lt_succ_self _), multipliers_of_le le_rfl, Pi.single_eq_same, mul_one, zero_add]
    split
    · rename_i hi
      rw [get_stage_of_col_le hp hi le_rfl, if_pos rfl]
    · rename_i hi
      rw [column_of_le (not_lt.mp hi)]
  · rw [multipliers_of_le hj, multipliers_of_le hj.le, Pi.single_eq_of_ne hj.ne', mul_zero, add_zero]

variable [IsStrictOrderedRing K]

lemma upper_stage : (f.stage k).upper (k + 1) =
    (f.pivot k).upper k - vecMulVec (f.column k) (((f.pivot k).upper k).row k) := by
  have hne := Scalar.ne_zero_of_not_negligible hp
  ext i j
  rw [Matrix.sub_apply, upper_apply, upper_apply, multipliers_stage hp, Matrix.add_apply, vecMulVec_apply,
    vecMulVec_apply, row_upper]
  rcases le_or_gt i k with hi | hi
  · rw [get_stage_of_le hi, column_of_le hi]
    ring
  · rcases lt_trichotomy j k with hj | rfl | hj
    · rw [get_stage_of_col_le hp hi hj.le, if_neg hj.ne, Pi.single_eq_of_ne hj.ne, if_pos hj]
      ring
    · rw [get_stage_of_col_le hp hi le_rfl, if_pos rfl, Pi.single_eq_same, if_neg (lt_irrefl _), column, if_pos hi]
      field_simp
      ring
    · rw [get_stage_of_lt hp hi hj, Pi.single_eq_of_ne hj.ne', if_neg hj.not_gt, column, if_pos hi]
      ring

lemma Splits.stage (h : f.Splits k t) : (f.stage k).Splits (k + 1) t := by
  have hzero : Pi.single k 1 ⬝ᵥ f.column k = 0 := by
    rw [single_dotProduct, column_of_le le_rfl, mul_zero]
  have hone : (f.pivot k).lower k *ᵥ f.column k = f.column k := by
    have hm : (f.pivot k).multipliers k *ᵥ f.column k = 0 := by
      funext i
      change ∑ j, (f.pivot k).multipliers k i j * f.column k j = 0
      refine Finset.sum_eq_zero fun j _ => ?_
      rcases le_total j k with hj | hj
      · rw [column_of_le hj, mul_zero]
      · rw [multipliers_of_le hj, zero_mul]
    rw [lower, add_mulVec, one_mulVec, hm, add_zero]
  -- with column c and pivot row u this is (L + c e)(U - c u) = L U
  rw [Splits, lower, multipliers_stage hp, ← add_assoc, ← lower, upper_stage hp, perm_stage, ← h.pivot, Matrix.add_mul,
    Matrix.mul_sub, Matrix.mul_sub, mul_vecMulVec, vecMulVec_mul, vecMulVec_mul_vecMulVec, hone, hzero,
    single_one_vecMul, zero_smul, vecMulVec_zero, sub_zero, sub_add_cancel]

end

lemma splits_start (t : Table n n K) : (⟨t, Vector.ofFn id, 1⟩ : Factors n K).Splits 0 t := by
  have hm : (⟨t, Vector.ofFn id, 1⟩ : Factors n K).multipliers 0 = 0 := by
    ext i j
    exact multipliers_of_le (Nat.zero_le _)
  have hperm : (Vector.ofFn id : Vector (Fin n) n).get = id := by
    funext i
    simp [Vector.get_eq_getElem]
  rw [Splits, lower, upper, hm, add_zero, sub_zero, Matrix.one_mul, hperm]
  rfl

lemma permuted_start (t : Table n n K) : (⟨t, Vector.ofFn id, 1⟩ : Factors n K).Permuted 1 :=
  ⟨fun i => by simp [Vector.get_eq_getElem], by simp⟩

lemma exists_permuted (t : Table n n K) : ∃ σ, (ofTable t).Permuted σ := by
  rw [ofTable_eq]
  exact (permuted_start t).foldl_stage _

lemma multipliers_of_card_le {k : ℕ} (h : n ≤ k) : f.multipliers k i j = if j < i then f.lu.get i j else 0 :=
  multipliers_of_lt (j.isLt.trans_le h)

lemma det_lower : (f.lower n).det = 1 := by
  rw [det_of_isLowerTriangular]
  · refine Finset.prod_eq_one fun i _ => ?_
    rw [lower, Matrix.add_apply, one_apply_eq, multipliers_of_card_le le_rfl, if_neg (lt_irrefl i), add_zero]
  · intro i j h
    have hlt : i < j := h
    rw [lower, Matrix.add_apply, one_apply_ne hlt.ne, multipliers_of_card_le le_rfl, if_neg hlt.not_gt, add_zero]

lemma det_upper : (f.upper n).det = ∏ i, f.lu.get i i := by
  rw [det_of_isUpperTriangular]
  · refine Finset.prod_congr rfl fun i _ => ?_
    rw [upper_apply, multipliers_of_card_le le_rfl, if_neg (lt_irrefl i), sub_zero]
  · intro i j h
    have hlt : j < i := h
    rw [upper_apply, multipliers_of_card_le le_rfl, if_pos hlt, sub_self]

def before (t : Table n n K) (k : Fin n) : Factors n K :=
  ((List.finRange n).take k).foldl stage ⟨t, Vector.ofFn id, 1⟩

/-- The greatest magnitude among the entries that stage `k` can take as its pivot. -/
def bestPivot (f : Factors n K) (k : Fin n) : K :=
  (Finset.Ici k).sup' Finset.nonempty_Ici fun r => |f.lu.get r k|

lemma get_ofTable_self : (ofTable t).lu.get k k = ((before t k).pivot k).lu.get k k := by
  have hk : k.val < (List.finRange n).length := by simp
  have hsplit : (List.finRange n).foldl stage ⟨t, Vector.ofFn id, 1⟩ =
      ((List.finRange n).drop (k + 1)).foldl stage ((before t k).stage k) := by
    conv_lhs => rw [← List.take_append_drop k.val (List.finRange n), List.drop_eq_getElem_cons hk]
    rw [List.foldl_append, List.foldl_cons, List.getElem_finRange]
    rfl
  have hrows : ∀ r ∈ (List.finRange n).drop (k + 1), k.val + 1 ≤ r.val := by
    intro r hr
    obtain ⟨i, hi, rfl⟩ := List.mem_drop_iff_getElem.mp hr
    simp
  rw [ofTable_eq, hsplit, get_foldl_stage hrows (Nat.lt_succ_self _), get_stage_of_le le_rfl]

lemma bestPivot_eq : f.bestPivot k = |(f.pivot k).lu.get k k| := by
  rw [get_pivot_self]
  refine le_antisymm (Finset.sup'_le _ _ fun r hr => Table.abs_get_le_pivotRow (Finset.mem_Ici.mp hr)) ?_
  exact Finset.le_sup' (fun r => |f.lu.get r k|) (Finset.mem_Ici.mpr (f.lu.le_pivotRow k k))

lemma not_deficient_iff : ¬(ofTable t).Deficient ↔ ∀ k, Scalar.pivotTolerance ≤ (before t k).bestPivot k := by
  simp only [Deficient, Scalar.negligible_iff, get_ofTable_self, bestPivot_eq, Scalar.pivotTolerance_eq, not_exists,
    not_lt]

variable [IsStrictOrderedRing K]

lemma Splits.foldl_stage {start : ℕ} {rows : List (Fin n)} (hrows : Upward start rows) (h : f.Splits start t)
    (hn : ¬(rows.foldl Factors.stage f).Deficient) : (rows.foldl Factors.stage f).Splits n t := by
  induction rows generalizing start f with
  | nil =>
    have hm : f.multipliers start = f.multipliers n := by
      ext i j
      rw [multipliers_of_card_le hrows.le_of_nil, multipliers_of_card_le le_rfl]
    rw [Splits, lower, upper, hm] at h
    exact h
  | cons k rows ih =>
    obtain ⟨rfl, hrest⟩ := hrows.of_cons
    -- the pivot of a stage stays on the diagonal, so one that is fine in the end was fine at its stage
    have hkeep : ((k :: rows).foldl Factors.stage f).lu.get k k = (f.pivot k).lu.get k k :=
      (get_foldl_stage hrest.le_of_mem (Nat.lt_succ_self k)).trans (get_stage_of_le le_rfl)
    have hp : Scalar.negligible ((f.pivot k).lu.get k k) = false := by
      rw [← hkeep, ← Bool.not_eq_true]
      exact fun hz => hn ⟨k, hz⟩
    exact ih hrest (h.stage hp) hn

lemma splits_ofTable (h : ¬(ofTable t).Deficient) : (ofTable t).Splits n t := by
  rw [ofTable_eq] at h ⊢
  exact (splits_start t).foldl_stage Upward.finRange h

lemma determinant_ofTable (h : ¬(ofTable t).Deficient) : (ofTable t).determinant = t.matrix.det := by
  obtain ⟨σ, hperm, hsign⟩ := exists_permuted t
  have hprod := congrArg det (splits_ofTable h)
  rw [det_mul, det_lower, one_mul, det_upper, funext hperm, det_permute] at hprod
  rw [determinant_of_not_deficient h, hprod, hsign, ← mul_assoc, ← Int.cast_mul, ← Units.val_mul, Int.units_mul_self]
  simp

end Factors

namespace DenseMatrix

variable {n : ℕ} {K : Type} [Field K] [LinearOrder K] [IsStrictOrderedRing K] [Rooted K]

/-- The factors' rows are a permutation of the table's with the tracked sign. The determinant is that of the table
if at every stage some pivot is large enough, and zero if not. -/
theorem determinant_eq_det (t : Table n n K) :
    (∃ σ, (Factors.ofTable t).Permuted σ) ∧ (⟨n, n, t⟩ : DenseMatrix K).determinant =
      .ok (if ∀ k, Scalar.pivotTolerance ≤ (Factors.before t k).bestPivot k then t.matrix.det else 0) := by
  refine ⟨Factors.exists_permuted t, ?_⟩
  rw [determinant_eq]
  split
  · rename_i h
    exact congrArg _ (Factors.determinant_ofTable (Factors.not_deficient_iff.mpr h))
  · rename_i h
    exact congrArg _ (Factors.determinant_of_deficient (not_not.mp (mt Factors.not_deficient_iff.mp h)))

def crossed : Table 3 3 ℚ := ⟨#v[0, 2, 1, 1, 1, 0, 3, 0, 1]⟩

lemma bestPivot_crossed : ∀ k, Scalar.pivotTolerance ≤ (Factors.before crossed k).bestPivot k := by
  decide +kernel

theorem determinant_eq_det_crossed : (⟨3, 3, crossed⟩ : DenseMatrix ℚ).determinant = .ok (-5) ∧
    crossed.matrix.det = -5 ∧ (∃ σ, (Factors.ofTable crossed).Permuted σ) ∧ collinear.determinant = .ok 0 := by
  have hvalue : (⟨3, 3, crossed⟩ : DenseMatrix ℚ).determinant = .ok (-5) :=
    determinant_eq.trans (congrArg Except.ok (by decide +kernel))
  obtain ⟨hperm, hdet⟩ := determinant_eq_det crossed
  rw [if_pos bestPivot_crossed] at hdet
  refine ⟨hvalue, Except.ok.inj (hdet.symm.trans hvalue), hperm, ?_⟩
  exact (determinant_eq_det collinear.table).2.trans (congrArg Except.ok (if_neg (by decide +kernel)))

end DenseMatrix

end Navigation
