import Mathlib
import Navigation.Matrix.Jacobi
import Navigation.Proofs.Matrix.Exact

namespace Navigation

open Matrix

section

variable {K : Type} [Field K] [LinearOrder K] [Rooted K]

lemma Table.get_identity {n : ℕ} (i j : Fin n) : (Table.identity : Table n n K).get i j = if i = j then 1 else 0 :=
  get_ofFn _ i j

@[simp] lemma Table.matrix_identity {n : ℕ} : (Table.identity : Table n n K).matrix = 1 := by
  ext i j
  rw [matrix_apply, get_identity, one_apply]

@[simp] lemma Table.matrix_transpose {m n : ℕ} {α : Type} (t : Table m n α) : t.transpose.matrix = t.matrixᵀ := by
  ext i j
  simp

namespace Rotation

variable {m n : ℕ} {r : Rotation n K}

def matrix (r : Rotation n K) : Matrix (Fin n) (Fin n) K := (r.turnCols Table.identity).matrix

structure Proper (r : Rotation n K) : Prop where
  ne : r.p ≠ r.q
  unit : r.cosine * r.cosine + r.sine * r.sine = 1

lemma matrix_turnCols (h : r.p ≠ r.q) (t : Table m n K) : (r.turnCols t).matrix = t.matrix * r.matrix := by
  ext i j
  rw [mul_apply]
  by_cases hp : j = r.p
  · simp [turnCols, matrix, hp, Table.get_identity, mul_sub, Finset.sum_sub_distrib]
    ring
  · by_cases hq : j = r.q
    · simp [turnCols, matrix, hq, h.symm, Table.get_identity, mul_add, Finset.sum_add_distrib]
      ring
    · simp [turnCols, matrix, hp, hq, Table.get_identity]

lemma turnRows_eq (t : Table n m K) : r.turnRows t = (r.turnCols t.transpose).transpose := by
  ext i j
  simp [turnRows, turnCols]

lemma matrix_turnRows (h : r.p ≠ r.q) (t : Table n m K) : (r.turnRows t).matrix = r.matrixᵀ * t.matrix := by
  rw [turnRows_eq, Table.matrix_transpose, matrix_turnCols h, transpose_mul, Table.matrix_transpose,
    transpose_transpose]

lemma get_turnCols_p (t : Table m n K) (i : Fin m) :
    (r.turnCols t).get i r.p = r.cosine * t.get i r.p - r.sine * t.get i r.q := by
  simp [turnCols]

lemma get_turnCols_q (h : r.p ≠ r.q) (t : Table m n K) (i : Fin m) :
    (r.turnCols t).get i r.q = r.sine * t.get i r.p + r.cosine * t.get i r.q := by
  simp [turnCols, h.symm]

lemma get_turnCols_of_ne {j : Fin n} (hp : j ≠ r.p) (hq : j ≠ r.q) (t : Table m n K) (i : Fin m) :
    (r.turnCols t).get i j = t.get i j := by
  simp [turnCols, hp, hq]

lemma Proper.mul_transpose_turnCols (h : r.Proper) (t : Table m n K) :
    (r.turnCols t).matrix * (r.turnCols t).matrixᵀ = t.matrix * t.matrixᵀ := by
  ext i i'
  rw [← sub_eq_zero]
  change ∑ j, (r.turnCols t).get i j * (r.turnCols t).get i' j - ∑ j, t.get i j * t.get i' j = 0
  rw [← Finset.sum_sub_distrib, Fintype.sum_eq_add r.p r.q h.ne]
  · rw [get_turnCols_p, get_turnCols_p, get_turnCols_q h.ne, get_turnCols_q h.ne]
    linear_combination (t.get i r.p * t.get i' r.p + t.get i r.q * t.get i' r.q) * h.unit
  · rintro j ⟨hp, hq⟩
    rw [get_turnCols_of_ne hp hq, get_turnCols_of_ne hp hq, sub_self]

lemma Proper.mul_transpose (h : r.Proper) : r.matrix * r.matrixᵀ = 1 := by
  refine (h.mul_transpose_turnCols Table.identity).trans ?_
  rw [Table.matrix_identity, transpose_one, Matrix.mul_one]

lemma Proper.transpose_mul (h : r.Proper) : r.matrixᵀ * r.matrix = 1 := mul_eq_one_comm.mp h.mul_transpose

variable {t : Table n n K}

lemma matrix_turn (h : r.p ≠ r.q) (t : Table n n K) :
    (r.turnRows (r.turnCols t)).matrix = r.matrixᵀ * t.matrix * r.matrix := by
  rw [matrix_turnRows h, matrix_turnCols h, Matrix.mul_assoc]

lemma get_turn_pp (t : Table n n K) : (r.turnRows (r.turnCols t)).get r.p r.p =
    r.cosine * (r.cosine * t.get r.p r.p - r.sine * t.get r.p r.q) -
      r.sine * (r.cosine * t.get r.q r.p - r.sine * t.get r.q r.q) := by
  simp [turnRows, turnCols]

lemma get_turn_pq (h : r.p ≠ r.q) (t : Table n n K) : (r.turnRows (r.turnCols t)).get r.p r.q =
    r.cosine * (r.sine * t.get r.p r.p + r.cosine * t.get r.p r.q) -
      r.sine * (r.sine * t.get r.q r.p + r.cosine * t.get r.q r.q) := by
  simp [turnRows, turnCols, h.symm]

lemma get_turn_qq (h : r.p ≠ r.q) (t : Table n n K) : (r.turnRows (r.turnCols t)).get r.q r.q =
    r.sine * (r.sine * t.get r.p r.p + r.cosine * t.get r.p r.q) +
      r.cosine * (r.sine * t.get r.q r.p + r.cosine * t.get r.q r.q) := by
  simp [turnRows, turnCols, h.symm]

lemma get_turn_of_ne {i : Fin n} (hp : i ≠ r.p) (hq : i ≠ r.q) (t : Table n n K) :
    (r.turnRows (r.turnCols t)).get i i = t.get i i := by
  simp [turnRows, turnCols, hp, hq]

lemma Proper.trace_turn (h : r.Proper) (t : Table n n K) :
    ((r.turnRows (r.turnCols t)).matrix * (r.turnRows (r.turnCols t)).matrixᵀ).trace =
      (t.matrix * t.matrixᵀ).trace := by
  rw [matrix_turnRows h.ne, Matrix.transpose_mul, transpose_transpose, Matrix.mul_assoc,
    ← Matrix.mul_assoc _ _ r.matrix, h.mul_transpose_turnCols, trace_mul_comm, Matrix.mul_assoc, h.mul_transpose,
    Matrix.mul_one]

end Rotation

namespace Table

def offSquares {n : ℕ} (t : Table n n K) : K := ∑ i, ∑ j, if i = j then 0 else t.get i j * t.get i j

lemma offSquares_eq {n : ℕ} (t : Table n n K) :
    t.offSquares = (t.matrix * t.matrixᵀ).trace - ∑ i, t.get i i * t.get i i := by
  have hentry (i j : Fin n) : (if i = j then 0 else t.get i j * t.get i j) =
      t.get i j * t.get i j - if i = j then t.get i j * t.get i j else 0 := by
    split
    · rw [sub_self]
    · rw [sub_zero]
  simp only [offSquares, hentry, Finset.sum_sub_distrib, Finset.sum_ite_eq, Finset.mem_univ, if_true]
  rfl

lemma offSquares_turn {n : ℕ} {r : Rotation n K} (h : r.Proper) {t : Table n n K}
    (hsymm : t.get r.q r.p = t.get r.p r.q) (hclear : (r.turnRows (r.turnCols t)).get r.p r.q = 0) :
    (r.turnRows (r.turnCols t)).offSquares = t.offSquares - 2 * (t.get r.p r.q * t.get r.p r.q) := by
  have hdiagonal : ∑ i, (r.turnRows (r.turnCols t)).get i i * (r.turnRows (r.turnCols t)).get i i -
      ∑ i, t.get i i * t.get i i = 2 * (t.get r.p r.q * t.get r.p r.q) := by
    rw [← Finset.sum_sub_distrib, Fintype.sum_eq_add r.p r.q h.ne]
    · rw [Rotation.get_turn_pq h.ne] at hclear
      rw [Rotation.get_turn_pp, Rotation.get_turn_qq h.ne, hsymm]
      rw [hsymm] at hclear
      -- the block of both axes keeps the sum of its squares
      linear_combination (r.cosine * r.cosine + r.sine * r.sine + 1) * (t.get r.p r.p * t.get r.p r.p +
        t.get r.q r.q * t.get r.q r.q + 2 * (t.get r.p r.q * t.get r.p r.q)) * h.unit -
        2 * (r.cosine * (r.sine * t.get r.p r.p + r.cosine * t.get r.p r.q) -
          r.sine * (r.sine * t.get r.p r.q + r.cosine * t.get r.q r.q)) * hclear
    · rintro i ⟨hp, hq⟩
      rw [Rotation.get_turn_of_ne hp hq, sub_self]
  rw [offSquares_eq, offSquares_eq, h.trace_turn, sub_sub, ← hdiagonal, add_sub_cancel]

end Table

end

namespace Rotation

lemma tangent_eq (θ : ℝ) {x : ℝ} (hx : x = (if 0 ≤ θ then 1 else -1) / (|θ| + √(θ * θ + 1))) :
    x * x + 2 * θ * x = 1 := by
  have hsquare : 0 ≤ θ * θ := mul_self_nonneg θ
  have hroot : √(θ * θ + 1) * √(θ * θ + 1) = θ * θ + 1 := Real.mul_self_sqrt (by positivity)
  have hpos : 0 < |θ| + √(θ * θ + 1) := by positivity
  rcases le_or_gt 0 θ with h | h
  · have hprod : x * (θ + √(θ * θ + 1)) = 1 := by
      rw [hx, if_pos h, abs_of_nonneg h, div_mul_cancel₀]
      rw [abs_of_nonneg h] at hpos
      exact hpos.ne'
    linear_combination (x * (θ + √(θ * θ + 1)) + 1 - 2 * θ * x) * hprod - x * x * hroot
  · have hprod : x * (-θ + √(θ * θ + 1)) = -1 := by
      rw [hx, if_neg h.not_ge, abs_of_neg h, div_mul_cancel₀]
      rw [abs_of_neg h] at hpos
      exact hpos.ne'
    linear_combination (x * (-θ + √(θ * θ + 1)) - 1 + 2 * θ * x) * hprod - x * x * hroot

variable {n : ℕ} {t : Table n n ℝ} {p q : Fin n}

lemma exists_tangent (t : Table n n ℝ) (p q : Fin n) : ∃ x : ℝ,
    x * x + 2 * ((t.get q q - t.get p p) / (2 * t.get p q)) * x = 1 ∧
      (clearing t p q).cosine = 1 / √(x * x + 1) ∧ (clearing t p q).sine = x * (clearing t p q).cosine := by
  have htwo : (Scalar.ofNat 2 : ℝ) = 2 := Nat.cast_ofNat
  have hsign (θ : ℝ) : (if Scalar.le 0 θ then (1 : ℝ) else -1) = if 0 ≤ θ then 1 else -1 :=
    if_congr Scalar.le_iff rfl rfl
  rw [← htwo]
  exact ⟨_, tangent_eq _ (congrArg (· / _) (hsign _)), rfl, rfl⟩

lemma proper_clearing (h : p ≠ q) (t : Table n n ℝ) : (clearing t p q).Proper where
  ne := h
  unit := by
    obtain ⟨x, -, hcosine, hsine⟩ := exists_tangent t p q
    have hpos : 0 < x * x + 1 := by nlinarith [mul_self_nonneg x]
    have hsquare : (clearing t p q).cosine * (clearing t p q).cosine * (x * x + 1) = 1 := by
      rw [hcosine, div_mul_div_comm, Real.mul_self_sqrt hpos.le, one_mul, one_div_mul_cancel hpos.ne']
    rw [hsine]
    linear_combination hsquare

lemma get_clearing (hpq : p ≠ q) (hsymm : t.get q p = t.get p q) (hentry : t.get p q ≠ 0) :
    ((clearing t p q).turnRows ((clearing t p q).turnCols t)).get p q = 0 := by
  obtain ⟨x, hx, -, hsine⟩ := exists_tangent t p q
  have hturn := get_turn_pq (r := clearing t p q) hpq t
  have hscaled : x * x * t.get p q + (t.get q q - t.get p p) * x = t.get p q := by
    field_simp at hx
    linear_combination hx
  refine hturn.trans ?_
  change (clearing t p q).cosine * ((clearing t p q).sine * t.get p p + (clearing t p q).cosine * t.get p q) -
    (clearing t p q).sine * ((clearing t p q).sine * t.get q p + (clearing t p q).cosine * t.get q q) = 0
  rw [hsymm, hsine]
  linear_combination -(clearing t p q).cosine * (clearing t p q).cosine * hscaled

end Rotation

end Navigation
