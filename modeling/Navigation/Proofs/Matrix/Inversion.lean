import Mathlib
import Navigation.Proofs.Matrix.Factorization

/-! Inverses from elimination beside the identity. -/

namespace Navigation

namespace Table

open Matrix

variable {n : ℕ} {K : Type} [Field K] {t : Table n n K} {v w : Fin (n + n) → K}

def Balanced (t : Table n n K) (v : Fin (n + n) → K) : Prop :=
  (fun j => v (Fin.castAdd n j)) = (fun j => v (Fin.natAdd n j)) ᵥ* t.matrix

lemma Balanced.smul (h : t.Balanced v) (c : K) : t.Balanced (c • v) := by
  have hc := congrArg (c • ·) h
  rwa [← smul_vecMul] at hc

lemma Balanced.sub (hv : t.Balanced v) (hw : t.Balanced w) : t.Balanced (v - w) := by
  have hsub := congrArg₂ (· - ·) hv hw
  rwa [← sub_vecMul] at hsub

variable [LinearOrder K] [Rooted K] {r r' : Table n (n + n) K} {k : Fin n} {start : ℕ} {rows : List (Fin n)}

lemma balanced_augment (t : Table n n K) (i : Fin n) : t.Balanced (t.augment.get i) := by
  have hleft (j : Fin n) : t.augment.get i (Fin.castAdd n j) = t.get i j := by
    rw [augment, get_ofFn, dif_pos (show (Fin.castAdd n j).val < n from j.isLt)]
    rfl
  have hright : (fun j => t.augment.get i (Fin.natAdd n j)) = Pi.single i 1 := by
    funext j
    have hval : (Fin.natAdd n j).val - n = j.val := by simp
    rw [augment, get_ofFn, dif_neg (by simp), hval, Pi.single_apply]
    simp only [Fin.val_inj]
  rw [Balanced, hright, single_one_vecMul]
  exact funext hleft

structure Reduced (start : ℕ) (r : Table n (n + n) K) (t : Table n n K) : Prop where
  balanced : ∀ i, t.Balanced (r.get i)
  cleared : ∀ i j : Fin n, j.val < start → r.get i (Fin.castAdd n j) = if i = j then 1 else 0

lemma reduced_augment (t : Table n n K) : Reduced 0 t.augment t := ⟨t.balanced_augment, nofun⟩

lemma Reduced.swapRows (h : Reduced k r t) {p : Fin n} (hp : k ≤ p) : Reduced k (r.swapRows k p) t where
  balanced i := by
    have hrow : (r.swapRows k p).get i = r.get (if i = k then p else if i = p then k else i) := by
      funext j
      exact get_swapRows r k p i j
    rw [hrow]
    exact h.balanced _
  cleared i j hj := by
    rw [get_swapRows, h.cleared _ j hj]
    have hk : k ≠ j := (Fin.lt_def.mpr hj).ne'
    have hjp : p ≠ j := (hp.trans_lt' (Fin.lt_def.mpr hj)).ne'
    by_cases hik : i = k
    · rw [if_pos hik, hik, if_neg hjp, if_neg hk]
    · rw [if_neg hik]
      by_cases hip : i = p
      · rw [if_pos hip, hip, if_neg hk, if_neg hjp]
      · rw [if_neg hip]

lemma get_reduce_self (j : Fin (n + n)) : (r.reduce k).get k j = r.get k j / r.get k (k.castAdd n) := by
  rw [reduce, get_ofFn, if_pos rfl]
  simp [Vector.get_eq_getElem]

lemma Reduced.reduce (h : Reduced k r t) (hp : r.get k (k.castAdd n) ≠ 0) : Reduced (k + 1) (r.reduce k) t where
  balanced i := by
    have hself : t.Balanced ((r.reduce k).get k) := by
      have hrow : (r.reduce k).get k = (r.get k (k.castAdd n))⁻¹ • r.get k := by
        funext j
        rw [get_reduce_self, Pi.smul_apply, smul_eq_mul, div_eq_inv_mul]
      rw [hrow]
      exact (h.balanced k).smul _
    by_cases hi : i = k
    · rw [hi]
      exact hself
    · have hrow : (r.reduce k).get i = r.get i - r.get i (k.castAdd n) • (r.reduce k).get k := by
        funext j
        rw [Factors.get_reduce_of_ne hi, Pi.sub_apply, Pi.smul_apply, smul_eq_mul, get_reduce_self]
      rw [hrow]
      exact (h.balanced i).sub (hself.smul _)
  cleared i j hj := by
    rcases Nat.lt_succ_iff_lt_or_eq.mp hj with hj | hj
    · -- a column that is already one of the identity has a zero in the pivot's row
      have hk : r.get k (j.castAdd n) = 0 := (h.cleared k j hj).trans (if_neg (Fin.lt_def.mpr hj).ne')
      by_cases hi : i = k
      · rw [hi, get_reduce_self, hk, zero_div, if_neg (Fin.lt_def.mpr hj).ne']
      · rw [Factors.get_reduce_of_ne hi, hk, zero_div, mul_zero, sub_zero, h.cleared i j hj]
    · obtain rfl := Fin.ext hj
      by_cases hi : i = j
      · rw [hi, get_reduce_self, div_self hp, if_pos rfl]
      · rw [Factors.get_reduce_of_ne hi, div_self hp, mul_one, sub_self, if_neg hi]

lemma Reduced.clear [IsStrictOrderedRing K] (h : Reduced k r t) (hr : r.clear k = .ok r') :
    Reduced (k + 1) r' t := by
  simp only [Table.clear] at hr
  split at hr
  · cases hr
  · rename_i hn
    obtain rfl := Except.ok.inj hr
    refine (h.swapRows (r.le_pivotRow k (k.castAdd n))).reduce ?_
    rw [get_swapRows, if_pos rfl]
    exact Scalar.ne_zero_of_not_negligible (Bool.eq_false_iff.mpr hn)

lemma Reduced.foldlM_clear [IsStrictOrderedRing K] (hrows : Factors.Upward start rows) (h : Reduced start r t)
    (hr : rows.foldlM Table.clear r = .ok r') : Reduced n r' t := by
  induction rows generalizing start r with
  | nil =>
    obtain rfl := Except.ok.inj hr
    exact ⟨h.balanced, fun i j _ => h.cleared i j (j.isLt.trans_le hrows.le_of_nil)⟩
  | cons k rows ih =>
    obtain ⟨rfl, hrest⟩ := hrows.of_cons
    rw [List.foldlM_cons] at hr
    cases hk : r.clear k with
    | error e =>
      rw [hk] at hr
      cases hr
    | ok s =>
      rw [hk] at hr
      exact ih hrest (h.clear hk) hr

lemma inverse_mul [IsStrictOrderedRing K] {s : Table n n K} (h : t.inverse = .ok s) : s.matrix * t.matrix = 1 := by
  rw [inverse_eq] at h
  cases hr : (List.finRange n).foldlM clear t.augment with
  | error e =>
    rw [hr] at h
    cases h
  | ok r =>
    rw [hr] at h
    obtain rfl := Except.ok.inj h
    have hreduced := (reduced_augment t).foldlM_clear Factors.Upward.finRange hr
    ext i j
    have hrow := congrFun (hreduced.balanced i) j
    have hright : (ofFn fun i j => r.get i (Fin.natAdd n j)).matrix i = fun j => r.get i (Fin.natAdd n j) :=
      funext fun j => get_ofFn _ i j
    rw [mul_apply_eq_vecMul, hright, ← hrow, hreduced.cleared i j j.isLt, one_apply]

end Table

namespace DenseMatrix

variable {n : ℕ} {K : Type} [Field K] [LinearOrder K] [IsStrictOrderedRing K] [Rooted K]

/-- A matrix has an inverse if every stage finds a pivot that is large enough, and then it is one from both sides. A
matrix whose determinant is zero has none. -/
theorem inverse_two_sided (a : Table n n K) :
    ((∃ x, (⟨n, n, a⟩ : DenseMatrix K).inverse = .ok x) ↔
      ∀ k, Scalar.pivotTolerance ≤ (Factors.before a k).bestPivot k) ∧
    (∀ x, (⟨n, n, a⟩ : DenseMatrix K).inverse = .ok x →
      ∃ s : Table n n K, x = ⟨n, n, s⟩ ∧ a.matrix * s.matrix = 1 ∧ s.matrix * a.matrix = 1) ∧
    (a.matrix.det = 0 → ∃ k p, (⟨n, n, a⟩ : DenseMatrix K).inverse = .error (.singular k p)) := by
  rw [← Factors.not_deficient_iff, inverse_eq]
  rcases Factors.deficient_ofTable a with ⟨⟨s, hs⟩, hd⟩ | ⟨⟨k, p, hp⟩, hd⟩
  · have hmul := Table.inverse_mul hs
    rw [hs]
    refine ⟨iff_of_true ⟨_, rfl⟩ hd, fun x hx => ⟨s, (Except.ok.inj hx).symm, ?_, hmul⟩, fun hdet => ?_⟩
    · exact mul_eq_one_comm.mp hmul
    · exact (Matrix.det_ne_zero_of_left_inverse hmul hdet).elim
  · rw [hp]
    exact ⟨iff_of_false (by rintro ⟨x, hx⟩; cases hx) (not_not_intro hd), nofun, fun _ => ⟨k, p, rfl⟩⟩

theorem inverse_two_sided_crossed :
    (∃ s : Table 3 3 ℚ, (⟨3, 3, crossed⟩ : DenseMatrix ℚ).inverse = .ok ⟨3, 3, s⟩ ∧
      s.matrix = !![-1 / 5, 2 / 5, 1 / 5; 1 / 5, 3 / 5, -1 / 5; 3 / 5, -6 / 5, 2 / 5]) ∧
    collinear.table.matrix.det = 0 ∧ ∃ k p, collinear.inverse = .error (.singular k p) := by
  obtain ⟨hok, hinverse, -⟩ := inverse_two_sided crossed
  obtain ⟨x, hx⟩ := hok.mpr bestPivot_crossed
  obtain ⟨s, rfl, -, hs⟩ := hinverse x hx
  have hdet : collinear.table.matrix.det = 0 := by decide +kernel
  exact ⟨⟨s, hx, left_inv_eq_right_inv hs (by decide +kernel)⟩, hdet,
    (inverse_two_sided collinear.table).2.2 hdet⟩

end DenseMatrix

end Navigation
