import Mathlib
import Navigation.Matrix.Scalar
import Navigation.Table

namespace Navigation

class Rooted (K : Type) where
  root : K → K

instance : Rooted ℚ := ⟨Rat.sqrt⟩

noncomputable instance : Rooted ℝ := ⟨Real.sqrt⟩

namespace Scalar

variable {K : Type} [Field K] [LinearOrder K] [Rooted K]

instance exact : Scalar K where
  ofNat n := n
  decimal m e := m / 10 ^ e
  abs x := |x|
  sqrt := Rooted.root
  lt x y := x < y
  le x y := x ≤ y

variable {x y : K}

@[simp] lemma lt_iff : Scalar.lt x y = true ↔ x < y := decide_eq_true_iff

@[simp] lemma le_iff : Scalar.le x y = true ↔ x ≤ y := decide_eq_true_iff

@[simp] lemma abs_eq : Scalar.abs x = |x| := rfl

@[simp] lemma pivotTolerance_eq : (pivotTolerance : K) = 1 / 10 ^ 14 := by
  change ((1 : ℕ) : K) / 10 ^ 14 = _
  rw [Nat.cast_one]

@[simp] lemma rotationTolerance_eq : (rotationTolerance : K) = 1 / 10 ^ 12 := by
  change ((1 : ℕ) : K) / 10 ^ 12 = _
  rw [Nat.cast_one]

@[simp] lemma singularTolerance_eq : (singularTolerance : K) = 1 / 10 ^ 10 := by
  change ((1 : ℕ) : K) / 10 ^ 10 = _
  rw [Nat.cast_one]

@[simp] lemma negligible_iff : negligible x = true ↔ |x| < 1 / 10 ^ 14 := by
  rw [negligible, lt_iff, abs_eq, pivotTolerance_eq]

lemma ne_zero_of_not_negligible [IsStrictOrderedRing K] (h : negligible x = false) : x ≠ 0 := by
  rintro rfl
  have hz : negligible (0 : K) = true := by
    rw [negligible_iff, abs_zero]
    positivity
  rw [h] at hz
  cases hz

end Scalar

def Table.matrix {m n : ℕ} {α : Type} (t : Table m n α) : Matrix (Fin m) (Fin n) α := Matrix.of t.get

@[simp] lemma Table.matrix_apply {m n : ℕ} {α : Type} (t : Table m n α) (i : Fin m) (j : Fin n) :
    t.matrix i j = t.get i j := rfl

end Navigation
