import Mathlib
import Navigation.Matrix.SingularValues
import Navigation.Proofs.Matrix.FlatMatrix
import Navigation.Proofs.Matrix.Sweeps

/-! Factors and pseudo-inverses from eigenpairs of the column products that are exact. -/

namespace Navigation

open Matrix

namespace Table

section

variable {K : Type} [Field K] [LinearOrder K] [Rooted K] {m n k : ℕ}

@[simp] lemma matrix_mul (s : Table m k K) (t : Table k n K) : (s.mul t).matrix = s.matrix * t.matrix := by
  have hsum (g : Fin k → K) (x : K) : Fin.foldl k (fun sum i => sum + g i) x = x + ∑ i, g i := by
    rw [Fin.foldl_eq_foldl_finRange, Fin.sum_univ_def]
    induction List.finRange k generalizing x with
    | nil => simp
    | cons i is ih => rw [List.foldl_cons, ih, List.map_cons, List.sum_cons, add_assoc]
  ext i j
  rw [matrix_apply, mul, get_ofFn, hsum]
  exact zero_add _

@[simp] lemma matrix_diagonal (values : Vector K n) : (diagonal values).matrix = Matrix.diagonal values.get := by
  ext i j
  rw [matrix_apply, diagonal, get_ofFn, diagonal_apply]

end

end Table

structure Penrose {m n : ℕ} (a : Matrix (Fin m) (Fin n) ℝ) (x : Matrix (Fin n) (Fin m) ℝ) : Prop where
  outer : a * x * a = a
  inner : x * a * x = x
  left : (a * x)ᵀ = a * x
  right : (x * a)ᵀ = x * a

lemma Penrose.transpose {m n : ℕ} {a : Matrix (Fin m) (Fin n) ℝ} {x : Matrix (Fin n) (Fin m) ℝ} (h : Penrose a x) :
    Penrose aᵀ xᵀ where
  outer := by rw [← transpose_mul, ← transpose_mul, ← Matrix.mul_assoc, h.outer]
  inner := by rw [← transpose_mul, ← transpose_mul, ← Matrix.mul_assoc, h.inner]
  left := by rw [← transpose_mul, h.right, h.right]
  right := by rw [← transpose_mul, h.left, h.left]

lemma Penrose.of_transpose {m n : ℕ} {t x : Table m n ℝ} (h : Penrose t.transpose.matrix x.matrix) :
    Penrose t.matrix x.transpose.matrix := by
  rw [Table.matrix_transpose] at h ⊢
  exact h.transpose

lemma Penrose.of_factors {m n : ℕ} {w : Matrix (Fin m) (Fin n) ℝ} {v : Matrix (Fin n) (Fin n) ℝ} {p d : Fin n → ℝ}
    (hv : vᵀ * v = 1) (hw : wᵀ * w = diagonal d) (hkeep : w * diagonal (fun j => p j * d j) = w)
    (hp : ∀ j, p j * d j * p j = p j) : Penrose (w * vᵀ) (v * diagonal p * wᵀ) := by
  have hleft : w * vᵀ * (v * diagonal p * wᵀ) = w * diagonal p * wᵀ := by
    calc w * vᵀ * (v * diagonal p * wᵀ) = w * (vᵀ * v) * diagonal p * wᵀ := by simp only [Matrix.mul_assoc]
      _ = w * diagonal p * wᵀ := by rw [hv, Matrix.mul_one]
  have hright : v * diagonal p * wᵀ * (w * vᵀ) = v * diagonal (fun j => p j * d j) * vᵀ := by
    calc v * diagonal p * wᵀ * (w * vᵀ) = v * (diagonal p * (wᵀ * w)) * vᵀ := by simp only [Matrix.mul_assoc]
      _ = v * diagonal (fun j => p j * d j) * vᵀ := by rw [hw, diagonal_mul_diagonal]
  refine ⟨?_, ?_, ?_, ?_⟩
  · calc w * vᵀ * (v * diagonal p * wᵀ) * (w * vᵀ) = w * vᵀ * (v * diagonal (fun j => p j * d j) * vᵀ) := by
          rw [Matrix.mul_assoc, hright]
      _ = w * (vᵀ * v) * diagonal (fun j => p j * d j) * vᵀ := by simp only [Matrix.mul_assoc]
      _ = w * vᵀ := by rw [hv, Matrix.mul_one, hkeep]
  · calc v * diagonal p * wᵀ * (w * vᵀ) * (v * diagonal p * wᵀ)
        = v * diagonal (fun j => p j * d j) * (vᵀ * v) * diagonal p * wᵀ := by
          rw [hright]
          simp only [Matrix.mul_assoc]
      _ = v * diagonal p * wᵀ := by
          rw [hv, Matrix.mul_one, Matrix.mul_assoc v, diagonal_mul_diagonal, funext hp]
  · rw [hleft, transpose_mul, transpose_mul, transpose_transpose, diagonal_transpose, Matrix.mul_assoc]
  · rw [hright, transpose_mul, transpose_mul, transpose_transpose, diagonal_transpose, Matrix.mul_assoc]

/-- An orthonormal basis of eigenvectors, with their eigenvalues. -/
structure Eigenpairs.Diagonalizes {n : ℕ} (e : Eigenpairs n ℝ) (g : Matrix (Fin n) (Fin n) ℝ) : Prop where
  orthonormal : e.vectors.matrixᵀ * e.vectors.matrix = 1
  eigen : g * e.vectors.matrix = e.vectors.matrix * Matrix.diagonal e.values.get

lemma Scalar.singularTolerance_pos : (0 : ℝ) < singularTolerance := by
  rw [singularTolerance_eq]
  positivity

namespace SingularValues

variable {m n : ℕ} {t : Table m n ℝ} {e : Eigenpairs n ℝ}

/-- The images of orthonormal vectors are orthogonal, and as long as the values. -/
structure Exact (a : Matrix (Fin m) (Fin n) ℝ) (s : SingularValues m n ℝ) : Prop where
  orthonormal : s.v.matrixᵀ * s.v.matrix = 1
  images : (a * s.v.matrix)ᵀ * (a * s.v.matrix) = diagonal fun j => s.values.get j * s.values.get j
  left : ∀ i j, s.u.get i j =
    if s.values.get j ≤ Scalar.singularTolerance then 0 else (a * s.v.matrix) i j / s.values.get j

lemma clampedRoot_eq (x : ℝ) : clampedRoot x = √x := by
  have hroot (y : ℝ) : Scalar.sqrt y = √y := rfl
  rw [clampedRoot, hroot]
  split
  · rfl
  · rename_i h
    rw [Scalar.lt_iff, not_lt] at h
    rw [Real.sqrt_zero, Real.sqrt_eq_zero_of_nonpos h]

lemma exact_ofEigenpairs (h : e.Diagonalizes (t.matrixᵀ * t.matrix)) : (ofEigenpairs t e).Exact t.matrix := by
  obtain ⟨σ, hσ⟩ : ∃ σ : Equiv.Perm (Fin n), ∀ j, (ranking e).get j = σ j := Ranking.exists_order_eq _
  have hv : (ofEigenpairs t e).v.matrix = e.vectors.matrix.submatrix id σ := by
    ext i j
    rw [Table.matrix_apply, get_v, hσ]
    rfl
  have hseen : e.vectors.matrixᵀ * ((t.matrixᵀ * t.matrix) * e.vectors.matrix) = diagonal e.values.get := by
    rw [h.eigen, ← Matrix.mul_assoc, h.orthonormal, Matrix.one_mul]
  have himages : (t.matrix * (ofEigenpairs t e).v.matrix)ᵀ * (t.matrix * (ofEigenpairs t e).v.matrix) =
      diagonal (e.values.get ∘ σ) := by
    rw [transpose_mul, Matrix.mul_assoc, ← Matrix.mul_assoc t.matrixᵀ, hv, Eigenpairs.form_submatrix, hseen,
      submatrix_diagonal _ _ σ.injective]
  refine ⟨hv ▸ Eigenpairs.orthonormal_submatrix h.orthonormal σ, ?_, fun i j => ?_⟩
  · -- an eigenvalue is the square of a length, so that no root is clamped
    rw [himages]
    congr 1
    funext j
    have hlength : ∑ i, (t.matrix * (ofEigenpairs t e).v.matrix) i j * (t.matrix * (ofEigenpairs t e).v.matrix) i j =
        e.values.get (σ j) := (congrFun (congrFun himages j) j).trans (diagonal_apply_eq _ j)
    have hnonneg : 0 ≤ e.values.get (σ j) :=
      (Finset.sum_nonneg fun i _ => mul_self_nonneg _).trans_eq hlength
    rw [get_values, hσ, clampedRoot_eq, Real.mul_self_sqrt hnonneg]
    rfl
  · rw [get_u]
    simp only [Scalar.le_iff, ← Table.matrix_apply, Table.matrix_mul]

def Parted (s : SingularValues m n ℝ) (cut : ℝ) : Prop := ∀ j, s.values.get j = 0 ∨ cut < s.values.get j

lemma singularTolerance_le (s : SingularValues m n ℝ) : Scalar.singularTolerance ≤ s.tolerance := by
  rw [tolerance]
  split
  · rename_i h
    exact (Scalar.lt_iff.mp h).le
  · exact le_rfl

lemma tolerance_lt {s : SingularValues m n ℝ} {b c : ℝ} (hb : 0 ≤ b) (hs : ∀ j, s.values.get j ≤ b)
    (hc : Scalar.singularTolerance < c) (hbc : (max m n : ℕ) * b / 2 ^ 26 < c) : s.tolerance < c := by
  have hgreatest : s.values.toList.head?.getD 0 ≤ b := by
    cases hv : s.values.toList with
    | nil => exact hb
    | cons x xs =>
      obtain ⟨j, hj, hx⟩ := List.mem_iff_getElem.mp (hv ▸ List.mem_cons_self : x ∈ s.values.toList)
      rw [Vector.getElem_toList] at hx
      exact (hs ⟨j, by simpa using hj⟩).trans_eq' hx
  have hroot : Scalar.sqrt (Scalar.epsilon : ℝ) = 1 / 2 ^ 26 := by
    change √(1 / ((2 ^ 52 : ℕ) : ℝ)) = _
    rw [Real.sqrt_eq_iff_mul_self_eq_of_pos (by positivity)]
    norm_num
  rw [tolerance]
  split
  · refine lt_of_le_of_lt ?_ hbc
    rw [hroot, mul_one_div]
    exact div_le_div_of_nonneg_right (mul_le_mul_of_nonneg_left hgreatest (Nat.cast_nonneg _)) (by positivity)
  · exact hc

lemma Parted.mono {s : SingularValues m n ℝ} (h : s.Parted s.tolerance) : s.Parted Scalar.singularTolerance :=
  fun j => (h j).imp_right s.singularTolerance_le.trans_lt

noncomputable def inverses (s : SingularValues m n ℝ) (j : Fin n) : ℝ := (s.values.get j)⁻¹

lemma inverses_mul {s : SingularValues m n ℝ} {j : Fin n} (hj : s.values.get j ≠ 0) :
    s.inverses j * s.values.get j = 1 := inv_mul_cancel₀ hj

namespace Exact

variable {a : Matrix (Fin m) (Fin n) ℝ} {s : SingularValues m n ℝ}

lemma mul_transpose (h : s.Exact a) : s.v.matrix * s.v.matrixᵀ = 1 := mul_eq_one_comm.mp h.orthonormal

lemma image_eq_zero (h : s.Exact a) {j : Fin n} (hj : s.values.get j = 0) (i : Fin m) :
    (a * s.v.matrix) i j = 0 := by
  have hlength : ∑ i, (a * s.v.matrix) i j * (a * s.v.matrix) i j = 0 := by
    refine (congrFun (congrFun h.images j) j).trans ?_
    rw [diagonal_apply_eq, hj, mul_zero]
  exact (Finset.sum_mul_self_eq_zero_iff _ _).mp hlength i (Finset.mem_univ i)

lemma image_mul_diagonal (h : s.Exact a) {f : Fin n → ℝ} (hf : ∀ j, s.values.get j ≠ 0 → f j = 1) :
    a * s.v.matrix * diagonal f = a * s.v.matrix := by
  ext i j
  rw [mul_diagonal]
  rcases eq_or_ne (s.values.get j) 0 with hj | hj
  · rw [h.image_eq_zero hj, zero_mul]
  · rw [hf j hj, mul_one]

lemma matrix_u (h : s.Exact a) (hs : s.Parted Scalar.singularTolerance) :
    s.u.matrix = a * s.v.matrix * diagonal s.inverses := by
  ext i j
  rw [Table.matrix_apply, h.left, mul_diagonal, inverses]
  split
  · -- what is cut off is zero and has no image
    rename_i hle
    have hzero := (hs j).resolve_right hle.not_gt
    rw [h.image_eq_zero hzero, zero_mul]
  · rw [div_eq_mul_inv]

theorem reconstruct_eq (h : s.Exact a) (hs : s.Parted Scalar.singularTolerance) : s.reconstruct.matrix = a := by
  calc s.reconstruct.matrix = a * s.v.matrix * diagonal s.inverses * diagonal s.values.get * s.v.matrixᵀ := by
        rw [reconstruct, Table.matrix_mul, Table.matrix_mul, Table.matrix_diagonal, Table.matrix_transpose,
          h.matrix_u hs]
    _ = a * s.v.matrix * s.v.matrixᵀ := by
        rw [Matrix.mul_assoc (a * _), diagonal_mul_diagonal, h.image_mul_diagonal fun _ => inverses_mul]
    _ = a := by rw [Matrix.mul_assoc, h.mul_transpose, Matrix.mul_one]

lemma matrix_pseudoInverse (h : s.Exact a) (hs : s.Parted s.tolerance) : s.pseudoInverse.matrix =
    s.v.matrix * diagonal (fun j => s.inverses j * s.inverses j) * (a * s.v.matrix)ᵀ := by
  have hinverses : (s.values.map fun x => if Scalar.lt s.tolerance x then 1 / x else 0).get = s.inverses := by
    funext j
    have hpos : 0 ≤ s.tolerance := Scalar.singularTolerance_pos.le.trans s.singularTolerance_le
    rw [Vector.get_map, inverses, one_div]
    rcases hs j with hj | hj
    · rw [if_neg (by rw [Scalar.lt_iff, hj]; exact hpos.not_gt), hj]
      simp
    · rw [if_pos (Scalar.lt_iff.mpr hj)]
  rw [pseudoInverse, Table.matrix_mul, Table.matrix_mul, Table.matrix_diagonal, Table.matrix_transpose, hinverses,
    h.matrix_u hs.mono, transpose_mul _ (diagonal _), diagonal_transpose, Matrix.mul_assoc,
    ← Matrix.mul_assoc (diagonal _), diagonal_mul_diagonal, ← Matrix.mul_assoc]

theorem penrose (h : s.Exact a) (hs : s.Parted s.tolerance) : Penrose a s.pseudoInverse.matrix := by
  have ha : a * s.v.matrix * s.v.matrixᵀ = a := by rw [Matrix.mul_assoc, h.mul_transpose, Matrix.mul_one]
  have hfactors := Penrose.of_factors h.orthonormal h.images (p := fun j => s.inverses j * s.inverses j)
    (h.image_mul_diagonal fun j hj => by rw [mul_mul_mul_comm, inverses_mul hj, mul_one]) fun j => by
      rcases eq_or_ne (s.values.get j) 0 with hj | hj
      · have hinverse : s.inverses j = 0 := inv_eq_zero.mpr hj
        rw [hinverse, mul_zero, mul_zero]
      · rw [mul_mul_mul_comm (s.inverses j), inverses_mul hj, one_mul, one_mul]
  rwa [ha, ← h.matrix_pseudoInverse hs] at hfactors

end Exact

end SingularValues

namespace DenseMatrix

def Resolved (a : DenseMatrix ℝ) : Prop := ∃ e : Eigenpairs a.cols ℝ,
  a.gram.eigenSymmetric = .ok e ∧ e.Diagonalizes (a.table.matrixᵀ * a.table.matrix)

def upright (a : DenseMatrix ℝ) : DenseMatrix ℝ := if a.rows < a.cols then a.transpose else a

def Crowded (a : DenseMatrix ℝ) : Prop := Shape.Large ⟨a.cols, a.cols⟩ ∨ a.shape.Large

instance (s : Shape) : Decidable s.Large := inferInstanceAs (Decidable (Word.half ≤ _))

instance (a : DenseMatrix ℝ) : Decidable a.Crowded := inferInstanceAs (Decidable (_ ∨ _))

variable {a : DenseMatrix ℝ}

lemma Resolved.singularValues (h : a.Resolved) :
    (∃ s, a.singularValues = .ok s ∧ s.Exact a.table.matrix) ∨
      (∃ reason, a.singularValues = .error (.overflow reason)) ∧ a.Crowded := by
  obtain ⟨e, he, hdiag⟩ := h
  rw [singularValues_eq, he]
  rcases FlatMatrix.area_cases a.cols a.cols with ⟨reason, harea, hlarge⟩ | harea
  · rw [harea]
    exact .inr ⟨⟨reason, rfl⟩, .inl hlarge⟩
  · rcases FlatMatrix.area_cases a.rows a.cols with ⟨reason, harea', hlarge⟩ | harea'
    · rw [harea, harea']
      exact .inr ⟨⟨reason, rfl⟩, .inr hlarge⟩
    · rw [harea, harea']
      exact .inl ⟨_, rfl, SingularValues.exact_ofEigenpairs hdiag⟩

lemma pseudoInverse_wide (h : a.rows < a.cols) :
    a.pseudoInverse = a.transpose.pseudoInverse.map DenseMatrix.transpose := by
  have hhigh : ¬a.transpose.rows < a.transpose.cols := h.not_gt
  rw [pseudoInverse, if_pos h, pseudoInverse, if_neg hhigh]
  cases a.transpose.singularValues with
  | error reason => rfl
  | ok s => rfl

lemma Resolved.pseudoInverse (h : a.Resolved) (hhigh : ¬a.rows < a.cols) :
    (∃ s, a.singularValues = .ok s ∧ ∃ x : Table a.cols a.rows ℝ, a.pseudoInverse = .ok ⟨a.cols, a.rows, x⟩ ∧
      (s.Parted s.tolerance → Penrose a.table.matrix x.matrix)) ∨
      (∃ reason, a.pseudoInverse = .error (.overflow reason)) ∧ a.Crowded := by
  rw [DenseMatrix.pseudoInverse, if_neg hhigh]
  rcases h.singularValues with ⟨s, hs, hexact⟩ | ⟨⟨reason, hs⟩, hcrowded⟩
  · refine .inl ⟨s, hs, s.pseudoInverse, ?_, hexact.penrose⟩
    rw [hs]
    rfl
  · refine .inr ⟨⟨reason, ?_⟩, hcrowded⟩
    rw [hs]
    rfl

/-- On column products that are resolved the factors multiply to the matrix and the pseudo-inverse solves its four
equations, as long as the values that are cut off are zero. Either is given unless it is too large. -/
theorem pseudoInverse_penrose (a : DenseMatrix ℝ) :
    (a.Resolved → (∃ s, a.singularValues = .ok s ∧
      (s.Parted Scalar.singularTolerance → s.reconstruct.matrix = a.table.matrix)) ∨
        (∃ reason, a.singularValues = .error (.overflow reason)) ∧ a.Crowded) ∧
    (a.upright.Resolved → (∃ s, a.upright.singularValues = .ok s ∧
      ∃ x : Table a.cols a.rows ℝ, a.pseudoInverse = .ok ⟨a.cols, a.rows, x⟩ ∧
        (s.Parted s.tolerance → Penrose a.table.matrix x.matrix)) ∨
          (∃ reason, a.pseudoInverse = .error (.overflow reason)) ∧ a.upright.Crowded) := by
  refine ⟨fun h => h.singularValues.imp_left fun ⟨s, hs, hexact⟩ => ⟨s, hs, hexact.reconstruct_eq⟩, fun h => ?_⟩
  by_cases hwide : a.rows < a.cols
  · have hupright : a.upright = a.transpose := if_pos hwide
    rw [hupright] at h ⊢
    rw [pseudoInverse_wide hwide]
    rcases h.pseudoInverse hwide.not_gt with ⟨s, hs, x, hx, hpenrose⟩ | ⟨⟨reason, hx⟩, hcrowded⟩
    · refine .inl ⟨s, hs, x.transpose, ?_, fun hparted => Penrose.of_transpose (hpenrose hparted)⟩
      rw [hx]
      rfl
    · refine .inr ⟨⟨reason, ?_⟩, hcrowded⟩
      rw [hx]
      rfl
  · have hupright : a.upright = a := if_neg hwide
    rw [hupright] at h ⊢
    exact h.pseudoInverse hwide

section

variable (h : ∀ i j, i ≠ j → (a.table.matrixᵀ * a.table.matrix) i j = 0)

include h

lemma exists_eigenpairs_of_orthogonal : ∃ (σ : Equiv.Perm (Fin a.cols)) (e : Eigenpairs a.cols ℝ),
    a.gram.eigenSymmetric = .ok e ∧ e.vectors.matrix = (1 : Matrix (Fin a.cols) (Fin a.cols) ℝ).submatrix id σ ∧
      ∀ i, e.values.get i = (a.table.matrixᵀ * a.table.matrix) (σ i) (σ i) := by
  have hgram : (a.table.transpose.mul a.table).matrix = a.table.matrixᵀ * a.table.matrix := by
    rw [Table.matrix_mul, Table.matrix_transpose]
  have hget (i j : Fin a.cols) : (a.table.transpose.mul a.table).get i j = (a.table.matrixᵀ * a.table.matrix) i j :=
    congrFun (congrFun hgram i) j
  obtain ⟨σ, e, he, hvalues, hvectors⟩ := Eigenpairs.exists_ofTable_eq (a.table.transpose.mul a.table)
  rw [Diagonalization.ofTable_of_diagonal fun p q hpq => (hget p q).trans (h p q hpq.ne)] at hvalues hvectors
  refine ⟨σ, e, ?_, ?_, fun i => ?_⟩
  · refine (eigenSymmetric_square _).trans ?_
    rw [he]
    rfl
  · rw [hvectors, Table.matrix_identity]
  · rw [hvalues, hget]

lemma resolved_of_orthogonal : a.Resolved := by
  obtain ⟨σ, e, he, hvectors, hvalues⟩ := exists_eigenpairs_of_orthogonal h
  refine ⟨e, he, ?_, ?_⟩
  · rw [hvectors]
    exact Eigenpairs.orthonormal_submatrix (by simp) σ
  · have hcolumns : a.table.matrixᵀ * a.table.matrix * (1 : Matrix (Fin a.cols) (Fin a.cols) ℝ).submatrix id σ =
        (a.table.matrixᵀ * a.table.matrix * 1).submatrix id σ := rfl
    ext i j
    rw [hvectors, hcolumns, Matrix.mul_one, mul_diagonal, hvalues, submatrix_apply, submatrix_apply, one_apply]
    split
    · rename_i hij
      rw [one_mul, ← hij]
    · rename_i hij
      rw [zero_mul]
      exact h i (σ j) hij

lemma exists_values_eq {s : SingularValues a.rows a.cols ℝ} (hs : a.singularValues = .ok s) (j : Fin a.cols) :
    ∃ i, s.values.get j = √((a.table.matrixᵀ * a.table.matrix) i i) := by
  obtain ⟨σ, e, he, -, hvalues⟩ := exists_eigenpairs_of_orthogonal h
  obtain ⟨e', he', rfl⟩ := exists_ofEigenpairs_eq hs
  obtain rfl : e' = e := Except.ok.inj (he'.symm.trans he)
  exact ⟨_, by rw [SingularValues.get_values, SingularValues.clampedRoot_eq, hvalues]⟩

end

def staggered : Table 2 3 ℝ := ⟨#v[0, 1, 0, 1, 0, 0]⟩

lemma matrix_staggered : staggered.matrix = !![0, 1, 0; 1, 0, 0] := by
  ext i j
  fin_cases i <;> fin_cases j <;> rfl

lemma staggered_columns : staggered.matrixᵀ * staggered.matrix = Matrix.diagonal ![1, 1, 0] := by
  rw [matrix_staggered]
  ext i j
  fin_cases i <;> fin_cases j <;> norm_num [mul_apply, Fin.sum_univ_succ]

lemma staggered_rows : staggered.transpose.matrixᵀ * staggered.transpose.matrix = 1 := by
  rw [Table.matrix_transpose, transpose_transpose, matrix_staggered]
  ext i j
  fin_cases i <;> fin_cases j <;> norm_num [mul_apply, Fin.sum_univ_succ]

theorem pseudoInverse_penrose_staggered :
    (∃ s, (⟨2, 3, staggered⟩ : DenseMatrix ℝ).singularValues = .ok s ∧ s.Parted Scalar.singularTolerance ∧
      s.reconstruct.matrix = staggered.matrix) ∧
    ∃ x : Table 3 2 ℝ, (⟨2, 3, staggered⟩ : DenseMatrix ℝ).pseudoInverse = .ok ⟨3, 2, x⟩ ∧
      Penrose staggered.matrix x.matrix := by
  obtain ⟨hfactors, hinverse⟩ := pseudoInverse_penrose ⟨2, 3, staggered⟩
  have hupright : (⟨2, 3, staggered⟩ : DenseMatrix ℝ).upright = ⟨3, 2, staggered.transpose⟩ := if_pos (by decide)
  have hcolumns (i j : Fin 3) (hij : i ≠ j) : (staggered.matrixᵀ * staggered.matrix) i j = 0 := by
    rw [staggered_columns, diagonal_apply_ne _ hij]
  have hrows (i j : Fin 2) (hij : i ≠ j) : (staggered.transpose.matrixᵀ * staggered.transpose.matrix) i j = 0 := by
    rw [staggered_rows, one_apply_ne hij]
  have hcut : (Scalar.singularTolerance : ℝ) < 1 := by
    rw [Scalar.singularTolerance_eq]
    norm_num
  rw [hupright] at hinverse
  refine ⟨?_, ?_⟩
  · obtain ⟨s, hs, hback⟩ := (hfactors (resolved_of_orthogonal hcolumns)).resolve_right fun hcrowded =>
      absurd hcrowded.2 (by decide)
    have hparted : s.Parted Scalar.singularTolerance := fun j => by
      obtain ⟨i, hi⟩ := exists_values_eq hcolumns hs j
      rw [hi, staggered_columns, diagonal_apply_eq]
      fin_cases i
      · exact .inr (hcut.trans_eq Real.sqrt_one.symm)
      · exact .inr (hcut.trans_eq Real.sqrt_one.symm)
      · exact .inl Real.sqrt_zero
    exact ⟨s, hs, hparted, hback hparted⟩
  · obtain ⟨s, hs, x, hx, hpenrose⟩ := (hinverse (resolved_of_orthogonal hrows)).resolve_right fun hcrowded =>
      absurd hcrowded.2 (by decide)
    have hvalue (j : Fin 2) : s.values.get j = 1 := by
      obtain ⟨i, hi⟩ := exists_values_eq hrows hs j
      rw [hi, staggered_rows, one_apply_eq, Real.sqrt_one]
    have htolerance : s.tolerance < 1 :=
      SingularValues.tolerance_lt zero_le_one (fun j => (hvalue j).le) hcut (by norm_num)
    exact ⟨x, hx, hpenrose fun j => .inr (htolerance.trans_eq (hvalue j).symm)⟩

end DenseMatrix

end Navigation
