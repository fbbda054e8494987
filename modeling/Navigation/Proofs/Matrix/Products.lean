import Mathlib
import Navigation.Proofs.Matrix.FlatMatrix
import Navigation.Proofs.Matrix.Ranking
import Navigation.Proofs.Number.Operands

namespace Navigation

open Buffer

namespace Table

variable {m k n : ℕ} {α : Type}

@[simp] lemma transpose_transpose (t : Table m n α) : t.transpose.transpose = t := by
  ext i j
  rw [get_transpose, get_transpose]

variable [Scalar α]

lemma get_mul (a : Table m k α) (b : Table k n α) (i : Fin m) (j : Fin n) :
    (a.mul b).get i j = (List.ofFn fun t => a.get i t * b.get t j).foldl (· + ·) 0 := by
  rw [mul, get_ofFn, Fin.foldl_eq_foldl_finRange, List.ofFn_eq_map, List.foldl_map]

section

variable (hcomm : ∀ x y : α, x * y = y * x)

include hcomm

lemma transpose_mul (a : Table m k α) (b : Table k n α) : (a.mul b).transpose = b.transpose.mul a.transpose := by
  ext j i
  simp only [get_transpose, get_mul, hcomm]

lemma get_mul_self_comm (a : Table m n α) (i j : Fin n) :
    (a.transpose.mul a).get i j = (a.transpose.mul a).get j i := by
  have hself : (a.transpose.mul a).transpose = a.transpose.mul a := by
    rw [transpose_mul hcomm, transpose_transpose]
  rw [← get_transpose, hself]

end

end Table

namespace DenseMatrix

variable {m k n : ℕ}

def Given (x : Except (Error Float) (DenseMatrix Float)) (good : Table m n Float → Prop) : Prop :=
  (∃ t, x = .ok ⟨m, n, t⟩ ∧ good t) ∨ (∃ reason, x = .error (.overflow reason)) ∧ Shape.Large ⟨m, n⟩

lemma multiply_table (a : Table m k Float) (b : Table k n Float) :
    (⟨m, k, a⟩ : DenseMatrix Float).multiply ⟨k, n, b⟩ = do
      let _ ← area m n
      return ⟨m, n, a.mul b⟩ := dif_pos rfl

lemma given_multiply (a : Table m k Float) (b : Table k n Float) {good : Table m n Float → Prop}
    (h : area m n = (.ok (m * n) : Except (Error Float) ℕ) → good (a.mul b)) :
    Given ((⟨m, k, a⟩ : DenseMatrix Float).multiply ⟨k, n, b⟩) good := by
  rw [multiply_table]
  rcases FlatMatrix.area_cases m n with ⟨reason, harea, hlarge⟩ | harea
  · rw [harea]
    exact .inr ⟨⟨reason, rfl⟩, hlarge⟩
  · rw [harea]
    exact .inl ⟨_, rfl, h harea⟩

lemma multiply_transpose (a : Table m k Float) (b : Table k n Float) :
    (⟨n, k, b.transpose⟩ : DenseMatrix Float).multiply ⟨k, m, a.transpose⟩ =
      ((⟨m, k, a⟩ : DenseMatrix Float).multiply ⟨k, n, b⟩).map transpose := by
  rw [multiply_table, multiply_table, FlatMatrix.area_comm n m, ← Table.transpose_mul Number.mul_swap]
  cases (area m n : Except (Error Float) ℕ) <;> rfl

end DenseMatrix

namespace FlatMatrix

variable {m k n : ℕ}

lemma transpose_multiply (a : Table m k Float) (b : Table k n Float) :
    (do (← multiply ⟨m, k, a.flat⟩ ⟨k, n, b.flat⟩).transpose) =
      (do (← transpose ⟨k, n, b.flat⟩).multiply (← transpose ⟨m, k, a.flat⟩) :
        Except (Fault Float) (FlatMatrix Float)) := by
  rw [multiply_flat, transpose_flat, transpose_flat, ok_bind, ok_bind, multiply_flat, area, area, area_comm n m]
  cases (DenseMatrix.area m n : Except (DenseMatrix.Error Float) ℕ) with
  | error e => rfl
  | ok size =>
    simp only [Except.mapError, ok_bind, pure_bind]
    rw [transpose_flat, Table.transpose_mul Number.mul_swap]
    rfl

end FlatMatrix

namespace DenseMatrix

variable {m k n : ℕ}

/-- Each entry of a product adds up its own products from zero, in the order of the inner index. So a product turned
over is the product of the factors turned over, and the products of columns that singular values are found from are
exactly symmetric. The loops over the buffers do the same. -/
theorem multiply_in_order (a : Table m k Float) (b : Table k n Float) :
    Given ((⟨m, k, a⟩ : DenseMatrix Float).multiply ⟨k, n, b⟩)
      (fun p : Table m n Float => ∀ i j, p.get i j = (List.ofFn fun t => a.get i t * b.get t j).foldl (· + ·) 0) ∧
    (⟨k, n, b⟩ : DenseMatrix Float).transpose.multiply (⟨m, k, a⟩ : DenseMatrix Float).transpose =
      ((⟨m, k, a⟩ : DenseMatrix Float).multiply ⟨k, n, b⟩).map transpose ∧
    Given ((⟨m, k, a⟩ : DenseMatrix Float).transpose.multiply ⟨m, k, a⟩)
      (fun g : Table k k Float => (∀ i j, g.get i j = g.get j i) ∧
        (⟨m, k, a⟩ : DenseMatrix Float).singularValues = do
          let e ← (⟨k, k, g⟩ : DenseMatrix Float).eigenSymmetric
          let _ ← area m k
          return SingularValues.ofEigenpairs a e) ∧
    FlatMatrix.multiply ⟨m, k, a.flat⟩ ⟨k, n, b.flat⟩ =
      FlatMatrix.outcome ((⟨m, k, a⟩ : DenseMatrix Float).multiply ⟨k, n, b⟩) ∧
    (do (← FlatMatrix.transpose ⟨k, n, b.flat⟩).multiply (← FlatMatrix.transpose ⟨m, k, a.flat⟩)) =
      (do (← FlatMatrix.multiply ⟨m, k, a.flat⟩ ⟨k, n, b.flat⟩).transpose :
        Except (Fault Float) (FlatMatrix Float)) ∧
    (do (← FlatMatrix.transpose ⟨m, k, a.flat⟩).multiply ⟨m, k, a.flat⟩) =
      FlatMatrix.outcome ((⟨m, k, a⟩ : DenseMatrix Float).transpose.multiply ⟨m, k, a⟩) := by
  refine ⟨given_multiply a b fun _ => Table.get_mul a b, multiply_transpose a b,
    given_multiply a.transpose a fun h => ?_, FlatMatrix.multiply_eq ⟨m, k, a⟩ ⟨k, n, b⟩,
    (FlatMatrix.transpose_multiply a b).symm, ?_⟩
  · refine ⟨Table.get_mul_self_comm Number.mul_swap a, ?_⟩
    rw [singularValues_eq, h]
    rfl
  · rw [FlatMatrix.transpose_flat]
    exact FlatMatrix.multiply_eq (transpose ⟨m, k, a⟩) ⟨m, k, a⟩

end DenseMatrix

end Navigation
