import Mathlib
import Navigation.Matrix.Jacobi
import Navigation.Proofs.Matrix.Pivots
import Navigation.Proofs.Matrix.Ranking
import Navigation.Proofs.Matrix.Rotations

namespace Navigation

open Matrix

lemma Scalar.rotationTolerance_pos : (0 : ℝ) < rotationTolerance := by
  rw [rotationTolerance_eq]
  positivity

namespace Diagonalization

section

variable {n : ℕ} {α : Type} [Scalar α]

def cells (n : ℕ) : List (Fin n × Fin n) :=
  (List.finRange n).flatMap fun p => ((List.finRange n).filter (p < ·)).map (p, ·)

lemma mem_cells {e : Fin n × Fin n} : e ∈ cells n ↔ e.1 < e.2 := by
  obtain ⟨p, q⟩ := e
  simp [cells]

lemma foldl_cells {σ : Type} (f : σ → Fin n → Fin n → σ) (s : σ) :
    Fin.foldl n (fun s p => Fin.foldl n (fun s q => if p < q then f s p q else s) s) s =
      (cells n).foldl (fun s e => f s e.1 e.2) s := by
  simp only [Fin.foldl_eq_foldl_finRange, cells, List.foldl_flatMap, List.foldl_map, List.foldl_filter,
    decide_eq_true_eq]

def steps (d : Diagonalization n α) (es : List (Fin n × Fin n)) : Diagonalization n α :=
  es.foldl (fun d e => d.step e.1 e.2) d

lemma sweep_eq (d : Diagonalization n α) : d.sweep = d.steps (cells n) := foldl_cells step d

def between (t : Table n n α) (k j : ℕ) : Diagonalization n α :=
  (sweep^[k] ⟨t, Table.identity⟩).steps ((cells n).take j)

lemma between_succ (t : Table n n α) (k : ℕ) : between t (k + 1) 0 = between t k (cells n).length := by
  rw [between, between, List.take_length, ← sweep_eq, ← Function.iterate_succ_apply' sweep, List.take_zero]
  rfl

lemma exists_run_eq (k : ℕ) (d : Diagonalization n α) : ∃ i ≤ k, d.run k = sweep^[i] d := by
  induction k generalizing d with
  | zero => exact ⟨0, le_rfl, rfl⟩
  | succ k ih =>
    rw [run]
    split
    · exact ⟨0, Nat.zero_le _, rfl⟩
    · obtain ⟨i, hi, hrun⟩ := ih d.sweep
      exact ⟨i + 1, Nat.succ_le_succ hi, hrun⟩

lemma exists_ofTable_eq (t : Table n n α) : ∃ k ≤ 100 * n * n, ofTable t = between t k 0 :=
  exists_run_eq _ _

end

variable {n : ℕ} {d : Diagonalization n ℝ} {a : Matrix (Fin n) (Fin n) ℝ} {p q : Fin n}

/-- The table is symmetric, and the given matrix seen from the axes. -/
structure Turned (a : Matrix (Fin n) (Fin n) ℝ) (d : Diagonalization n ℝ) : Prop where
  orthonormal : d.axes.matrixᵀ * d.axes.matrix = 1
  similar : d.axes.matrix * d.table.matrix * d.axes.matrixᵀ = a
  symmetric : d.table.matrix.IsSymm

namespace Turned

lemma seen (h : Turned a d) : d.axes.matrixᵀ * (a * d.axes.matrix) = d.table.matrix := by
  rw [← h.similar, Matrix.mul_assoc, h.orthonormal, Matrix.mul_one, ← Matrix.mul_assoc, h.orthonormal,
    Matrix.one_mul]

lemma start {t : Table n n ℝ} (h : t.matrix.IsSymm) : Turned t.matrix ⟨t, Table.identity⟩ where
  orthonormal := by simp
  similar := by simp
  symmetric := h

lemma turn {r : Rotation n ℝ} (hr : r.Proper) (h : Turned a d) : Turned a (d.turn r) := by
  have htable : (d.turn r).table.matrix = r.matrixᵀ * d.table.matrix * r.matrix := Rotation.matrix_turn hr.ne d.table
  have haxes : (d.turn r).axes.matrix = d.axes.matrix * r.matrix := Rotation.matrix_turnCols hr.ne d.axes
  refine ⟨?_, ?_, ?_⟩
  · calc (d.turn r).axes.matrixᵀ * (d.turn r).axes.matrix
        = r.matrixᵀ * (d.axes.matrixᵀ * d.axes.matrix) * r.matrix := by
          rw [haxes, transpose_mul]
          simp only [Matrix.mul_assoc]
      _ = 1 := by rw [h.orthonormal, Matrix.mul_one, hr.transpose_mul]
  · calc (d.turn r).axes.matrix * (d.turn r).table.matrix * (d.turn r).axes.matrixᵀ
        = d.axes.matrix * (r.matrix * r.matrixᵀ) * d.table.matrix * (r.matrix * r.matrixᵀ) * d.axes.matrixᵀ := by
          rw [haxes, htable, transpose_mul]
          simp only [Matrix.mul_assoc]
      _ = a := by rw [hr.mul_transpose, Matrix.mul_one, Matrix.mul_one, h.similar]
  · rw [htable, IsSymm, transpose_mul, transpose_mul, transpose_transpose, h.symmetric.eq, Matrix.mul_assoc]

lemma step (hpq : p < q) (h : Turned a d) : Turned a (d.step p q) := by
  rw [Diagonalization.step]
  split
  · exact h
  · exact h.turn (Rotation.proper_clearing hpq.ne d.table)

lemma steps (h : Turned a d) {es : List (Fin n × Fin n)} (hes : ∀ e ∈ es, e.1 < e.2) : Turned a (d.steps es) := by
  induction es generalizing d with
  | nil => exact h
  | cons e es ih =>
    exact ih (h.step (hes e List.mem_cons_self)) fun e' he => hes e' (List.mem_cons_of_mem e he)

lemma sweeps (h : Turned a d) (k : ℕ) : Turned a (sweep^[k] d) := by
  induction k generalizing d with
  | zero => exact h
  | succ k ih =>
    rw [Function.iterate_succ_apply, sweep_eq]
    exact ih (h.steps fun _ => mem_cells.mp)

lemma between {t : Table n n ℝ} (h : t.matrix.IsSymm) (k j : ℕ) : Turned t.matrix (between t k j) :=
  ((start h).sweeps k).steps fun _ he => mem_cells.mp (List.mem_of_mem_take he)

lemma ofTable {t : Table n n ℝ} (h : t.matrix.IsSymm) : Turned t.matrix (ofTable t) := by
  obtain ⟨k, -, hk⟩ := exists_ofTable_eq t
  rw [hk]
  exact between h k 0

lemma clears (hpq : p < q) (h : Turned a d) : (d.step p q).table.get p q = 0 ∧
    (d.step p q).table.offSquares = d.table.offSquares - 2 * (d.table.get p q * d.table.get p q) := by
  have hsymm : d.table.get q p = d.table.get p q := h.symmetric.apply p q
  rw [Diagonalization.step]
  split
  · -- a zero is passed over, and there is nothing to move
    rename_i hzero
    have hentry : d.table.get p q = 0 := by simpa using hzero
    rw [hentry]
    exact ⟨rfl, by ring⟩
  · rename_i hentry
    have hclear := Rotation.get_clearing hpq.ne hsymm (by simpa using hentry)
    exact ⟨hclear, Table.offSquares_turn (Rotation.proper_clearing hpq.ne d.table) hsymm hclear⟩

end Turned

lemma foldl_greatest_lt {c : ℝ} (f : Fin n × Fin n → ℝ) (es : List (Fin n × Fin n)) (most : ℝ) :
    es.foldl (fun most e => if most < f e then f e else most) most < c ↔ most < c ∧ ∀ e ∈ es, f e < c := by
  induction es generalizing most with
  | nil => simp
  | cons e es ih =>
    have hstep : (if most < f e then f e else most) < c ↔ most < c ∧ f e < c := by
      rw [← max_def_lt, max_lt_iff]
    rw [List.foldl_cons, ih, hstep, List.forall_mem_cons, and_assoc]

lemma offDiagonal_eq (d : Diagonalization n ℝ) : d.offDiagonal =
    (cells n).foldl (fun most e => if most < |d.table.get e.1 e.2| then |d.table.get e.1 e.2| else most) 0 := by
  rw [← foldl_cells fun most p q => if most < |d.table.get p q| then |d.table.get p q| else most, offDiagonal]
  simp only [Bool.and_eq_true, decide_eq_true_eq, Scalar.lt_iff, Scalar.abs_eq, ite_and]

lemma offDiagonal_lt {c : ℝ} (hc : 0 < c) : d.offDiagonal < c ↔ ∀ p q, p < q → |d.table.get p q| < c := by
  rw [offDiagonal_eq, foldl_greatest_lt, and_iff_right hc, Prod.forall]
  simp only [mem_cells]

lemma run_eq_self (h : d.offDiagonal < Scalar.rotationTolerance) (k : ℕ) : d.run k = d := by
  cases k with
  | zero => rfl
  | succ k => rw [run, if_pos (Scalar.lt_iff.mpr h)]

lemma ofTable_of_diagonal {t : Table n n ℝ} (h : ∀ p q, p < q → t.get p q = 0) : ofTable t = ⟨t, Table.identity⟩ := by
  refine run_eq_self ((offDiagonal_lt Scalar.rotationTolerance_pos).mpr fun p q hpq => ?_) _
  rw [h p q hpq, abs_zero]
  exact Scalar.rotationTolerance_pos

lemma offDiagonal_run (h : d.sweep.offDiagonal < Scalar.rotationTolerance) (k : ℕ) :
    (d.run (k + 1)).offDiagonal < Scalar.rotationTolerance := by
  rw [run]
  split
  · rename_i hend
    exact Scalar.lt_iff.mp hend
  · rwa [run_eq_self h]

end Diagonalization

namespace Eigenpairs

variable {n : ℕ}

lemma exists_ofTable_eq (t : Table n n ℝ) : ∃ (σ : Equiv.Perm (Fin n)) (e : Eigenpairs n ℝ), ofTable? t = some e ∧
    (∀ i, e.values.get i = (Diagonalization.ofTable t).table.get (σ i) (σ i)) ∧
    e.vectors.matrix = (Diagonalization.ofTable t).axes.matrix.submatrix id σ := by
  obtain ⟨σ, hσ⟩ := Ranking.exists_order_eq fun i j : Fin n =>
    Scalar.lt (Scalar.abs ((Diagonalization.ofTable t).table.get j j))
      (Scalar.abs ((Diagonalization.ofTable t).table.get i i))
  refine ⟨σ, _, ofDiagonalization?_eq fun i => beq_self_eq_true _, fun i => ?_, ?_⟩
  · rw [get_values_ofOrder, hσ]
  · ext i j
    rw [Table.matrix_apply, get_vectors_ofOrder, hσ]
    rfl

lemma dotProduct_mulVec_col (a v : Matrix (Fin n) (Fin n) ℝ) (i j : Fin n) :
    v.col i ⬝ᵥ a *ᵥ v.col j = (vᵀ * (a * v)) i j := rfl

lemma form_submatrix (a v : Matrix (Fin n) (Fin n) ℝ) (σ : Equiv.Perm (Fin n)) :
    (v.submatrix id σ)ᵀ * (a * v.submatrix id σ) = (vᵀ * (a * v)).submatrix σ σ := rfl

lemma orthonormal_submatrix {v : Matrix (Fin n) (Fin n) ℝ} (h : vᵀ * v = 1) (σ : Equiv.Perm (Fin n)) :
    (v.submatrix id σ)ᵀ * v.submatrix id σ = 1 := by
  have hone := form_submatrix 1 v σ
  rwa [Matrix.one_mul, Matrix.one_mul, h, submatrix_one _ σ.injective] at hone

end Eigenpairs

namespace DenseMatrix

variable {n : ℕ}

open Diagonalization in
/-- After any number of sweeps and rotations the table is the given one seen from orthonormal axes, and the next
rotation moves the squares of the entries that it clears to the diagonal. So the eigenpairs are orthonormal axes with
the quadratic form on them, and on different axes the form is small once the sweeps have come to their end. -/
theorem eigenSymmetric_turned (t : Table n n ℝ) (ht : t.matrix.IsSymm) :
    (∀ k j, Turned t.matrix (between t k j) ∧ ∀ p q, p < q →
      ((between t k j).step p q).table.get p q = 0 ∧ ((between t k j).step p q).table.offSquares =
        (between t k j).table.offSquares - 2 * ((between t k j).table.get p q * (between t k j).table.get p q)) ∧
    (∀ k, between t (k + 1) 0 = between t k (cells n).length) ∧ (∃ k ≤ 100 * n * n, ofTable t = between t k 0) ∧
    ∃ e, (⟨n, n, t⟩ : DenseMatrix ℝ).eigenSymmetric = .ok e ∧ e.vectors.matrixᵀ * e.vectors.matrix = 1 ∧
      (∀ i, e.vectors.matrix.col i ⬝ᵥ t.matrix *ᵥ e.vectors.matrix.col i = e.values.get i) ∧
      ((ofTable t).offDiagonal < Scalar.rotationTolerance → ∀ i j, i ≠ j →
        |e.vectors.matrix.col i ⬝ᵥ t.matrix *ᵥ e.vectors.matrix.col j| < Scalar.rotationTolerance) := by
  refine ⟨fun k j => ⟨.between ht k j, fun p q hpq => (Turned.between ht k j).clears hpq⟩, between_succ t,
    exists_ofTable_eq t, ?_⟩
  -- the order of the eigenpairs permutes the axes, and the form with them
  obtain ⟨σ, e, he, hvalues, hvectors⟩ := Eigenpairs.exists_ofTable_eq t
  have h := Turned.ofTable ht
  have horth : e.vectors.matrixᵀ * e.vectors.matrix = 1 := by
    rw [hvectors]
    exact Eigenpairs.orthonormal_submatrix h.orthonormal σ
  have hform (i j : Fin n) : e.vectors.matrix.col i ⬝ᵥ t.matrix *ᵥ e.vectors.matrix.col j =
      (ofTable t).table.get (σ i) (σ j) := by
    rw [hvectors, Eigenpairs.dotProduct_mulVec_col, Eigenpairs.form_submatrix, h.seen]
    rfl
  refine ⟨e, ?_, horth, fun i => ?_, fun hend i j hij => ?_⟩
  · rw [eigenSymmetric_square, he]
  · rw [hform, hvalues]
  · rw [hform]
    have hsmall := (offDiagonal_lt Scalar.rotationTolerance_pos).mp hend
    rcases lt_or_gt_of_ne (σ.injective.ne hij) with hlt | hgt
    · exact hsmall _ _ hlt
    · have hacross : (ofTable t).table.get (σ i) (σ j) = (ofTable t).table.get (σ j) (σ i) := h.symmetric.apply _ _
      rw [hacross]
      exact hsmall _ _ hgt

def level : Table 2 2 ℝ := ⟨#v[0, 1, 1, 0]⟩

lemma level_symm : level.matrix.IsSymm := by
  ext i j
  fin_cases i <;> fin_cases j <;> rfl

open Diagonalization in
theorem eigenSymmetric_turned_level : level.matrix.IsSymm ∧
    ∃ e, (⟨2, 2, level⟩ : DenseMatrix ℝ).eigenSymmetric = .ok e ∧ e.vectors.matrixᵀ * e.vectors.matrix = 1 ∧
      (∀ i, e.vectors.matrix.col i ⬝ᵥ level.matrix *ᵥ e.vectors.matrix.col i = e.values.get i) ∧
      ∀ i j, i ≠ j → |e.vectors.matrix.col i ⬝ᵥ level.matrix *ᵥ e.vectors.matrix.col j| < Scalar.rotationTolerance := by
  obtain ⟨-, -, -, e, he, horth, hvalues, hend⟩ := eigenSymmetric_turned level level_symm
  have hcleared : (sweep ⟨level, Table.identity⟩).offDiagonal < Scalar.rotationTolerance := by
    refine (offDiagonal_lt Scalar.rotationTolerance_pos).mpr fun p q hpq => ?_
    obtain ⟨rfl, rfl⟩ : p = 0 ∧ q = 1 := by omega
    have hclear := ((Turned.start level_symm).clears hpq).1
    have hsweep : (sweep ⟨level, Table.identity⟩).table.get 0 1 = 0 := hclear
    rw [hsweep, abs_zero]
    exact Scalar.rotationTolerance_pos
  exact ⟨level_symm, e, he, horth, hvalues, hend (offDiagonal_run hcleared 399)⟩

end DenseMatrix

end Navigation
