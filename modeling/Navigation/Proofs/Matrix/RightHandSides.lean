import Mathlib
import Navigation.Proofs.Matrix.FlatElimination

namespace Navigation

open Buffer

structure Columnwise {M ε : Type} (column : M → ℕ → Except ε M) (solve : M → Except ε M) (singular : ε → Prop)
    (width : ℕ) (b : M) : Prop where
  ok_iff : (∃ x, solve b = .ok x) ↔ ∀ j < width, ∃ x, (column b j >>= solve) = .ok x
  column_eq : ∀ x, solve b = .ok x → ∀ j < width, (column b j >>= solve) = column x j
  fault_eq : ∀ e, solve b = .error e → singular e ∧ ∀ j < width, (column b j >>= solve) = .error e

namespace Columnwise

variable {M ε : Type} {column : M → ℕ → Except ε M} {solve : M → Except ε M} {singular : ε → Prop} {width : ℕ} {b x : M}

lemma of_ok (hok : solve b = .ok x) (hinside : ∀ j < width, ∃ y, column x j = .ok y)
    (h : ∀ j < width, (column b j >>= solve) = column x j) : Columnwise column solve singular width b where
  ok_iff := iff_of_true ⟨x, hok⟩ fun j hj => (hinside j hj).imp fun _ hy => (h j hj).trans hy
  column_eq y hy j hj := by
    obtain rfl : x = y := Except.ok.inj (hok.symm.trans hy)
    exact h j hj
  fault_eq e he := by
    rw [hok] at he
    cases he

lemma of_error {e : ε} (herror : solve b = .error e) (hsingular : singular e) (hwidth : 0 < width)
    (h : ∀ j < width, (column b j >>= solve) = .error e) : Columnwise column solve singular width b where
  ok_iff := by
    refine iff_of_false ?_ fun hall => ?_
    · rintro ⟨x, hx⟩
      rw [herror] at hx
      cases hx
    · obtain ⟨y, hy⟩ := hall 0 hwidth
      rw [h 0 hwidth] at hy
      cases hy
  column_eq x hx := by
    rw [herror] at hx
    cases hx
  fault_eq e' he' := by
    obtain rfl : e = e' := Except.error.inj (herror.symm.trans he')
    exact ⟨hsingular, h⟩

end Columnwise

namespace Table

variable {n m : ℕ} {α : Type}

def column (b : Table n m α) (j : Fin m) : Table n 1 α := ofFn fun i _ => b.get i j

@[simp] lemma get_column (b : Table n m α) (j : Fin m) (i : Fin n) (k : Fin 1) : (b.column j).get i k = b.get i j :=
  get_ofFn _ i k

end Table

section

variable {n m : ℕ} {α : Type} [Scalar α]

lemma Factors.solve_column (f : Factors n α) (b : Table n m α) (j : Fin m) :
    f.solve (b.column j) = (f.solve b).map fun x => x.column j := by
  unfold solve
  cases f.singularRow? with
  | some i =>
    dsimp only
    rw [if_neg one_ne_zero, if_neg j.pos.ne']
    rfl
  | none =>
    refine congrArg Except.ok ?_
    ext i k
    simp [Vector.get_eq_getElem]

lemma Factors.solve_ok_or_singular (f : Factors n α) (b : Table n m α) :
    (∃ x, f.solve b = .ok x) ∨ ∃ k p, f.solve b = .error (.singular k p) := by
  unfold solve
  cases f.singularRow? with
  | some i =>
    by_cases hm : m = 0
    · exact .inl ⟨_, if_pos hm⟩
    · exact .inr ⟨_, _, if_neg hm⟩
  | none => exact .inl ⟨_, rfl⟩

end

namespace DenseMatrix

variable {n m : ℕ}

def IsSingular (e : Error Float) : Prop := ∃ column pivot, e = .singular column pivot

lemma column_table (b : Table n m Float) (j : Fin m) :
    (⟨n, m, b⟩ : DenseMatrix Float).column j = .ok ⟨n, 1, b.column j⟩ := dif_pos j.isLt

lemma solve_column (a : Table n n Float) (b : Table n m Float) (j : Fin m) :
    ((⟨n, m, b⟩ : DenseMatrix Float).column j >>= (⟨n, n, a⟩ : DenseMatrix Float).solve) =
      (⟨n, n, a⟩ : DenseMatrix Float).solve ⟨n, m, b⟩ >>= (column · j) := by
  rw [column_table, ok_bind, solve_eq, solve_eq, Factors.solve_column]
  cases (Factors.ofTable a).solve b with
  | error e => rfl
  | ok x => exact (column_table x j).symm

end DenseMatrix

namespace FlatMatrix

variable {n m : ℕ}

lemma column_flat (b : Table n m Float) (j : Fin m) : (column ⟨n, m, b.flat⟩ j : Except (Fault Float) _) =
    .ok ⟨n, 1, (b.column j).flat⟩ := by
  refine (column_eq ⟨n, m, b⟩ j).trans ?_
  rw [DenseMatrix.column_table]
  rfl

lemma solve_column (a : Table n n Float) (b : Table n m Float) (j : Fin m) :
    (column ⟨n, m, b.flat⟩ j >>= solve ⟨n, n, a.flat⟩) =
      outcome ((⟨n, m, b⟩ : DenseMatrix Float).column j >>= (⟨n, n, a⟩ : DenseMatrix Float).solve) := by
  rw [column_flat, DenseMatrix.column_table]
  exact solve_eq ⟨n, n, a⟩ ⟨n, 1, b.column j⟩

end FlatMatrix

namespace DenseMatrix

variable {n m : ℕ}

/-- Each right-hand side is solved on its own: a column of the answer is the answer for that column, and a pivot that
is too small is found in the same place for all of them. The loops over one buffer do the same. -/
theorem solve_columnwise (a : Table n n Float) (b : Table n m Float) (hm : 0 < m) :
    Columnwise column (⟨n, n, a⟩ : DenseMatrix Float).solve IsSingular m ⟨n, m, b⟩ ∧
    Columnwise FlatMatrix.column (FlatMatrix.solve ⟨n, n, a.flat⟩)
      (fun fault => ∃ e, IsSingular e ∧ fault = .refused e) m ⟨n, m, b.flat⟩ := by
  have hflat := FlatMatrix.solve_eq ⟨n, n, a⟩ ⟨n, m, b⟩
  have hcolumn (j : ℕ) (hj : j < m) := solve_column a b ⟨j, hj⟩
  have hflatColumn (j : ℕ) (hj : j < m) := FlatMatrix.solve_column a b ⟨j, hj⟩
  dsimp only at hcolumn hflatColumn
  rcases (Factors.ofTable a).solve_ok_or_singular b with ⟨x, hx⟩ | ⟨k, p, hp⟩
  · have hsolve : (⟨n, n, a⟩ : DenseMatrix Float).solve ⟨n, m, b⟩ = .ok ⟨n, m, x⟩ := by
      rw [solve_eq, hx]
      rfl
    rw [hsolve] at hflat
    simp only [hsolve, ok_bind] at hcolumn
    refine ⟨.of_ok hsolve (fun j hj => ⟨_, column_table x ⟨j, hj⟩⟩) hcolumn,
      .of_ok hflat (fun j hj => ⟨_, FlatMatrix.column_flat x ⟨j, hj⟩⟩) fun j hj => ?_⟩
    rw [hflatColumn j hj, hcolumn j hj]
    exact (FlatMatrix.column_eq ⟨n, m, x⟩ j).symm
  · have hsolve : (⟨n, n, a⟩ : DenseMatrix Float).solve ⟨n, m, b⟩ = .error (.singular k p) := by
      rw [solve_eq, hp]
      rfl
    rw [hsolve] at hflat
    simp only [hsolve] at hcolumn
    refine ⟨.of_error hsolve ⟨k, p, rfl⟩ hm hcolumn, .of_error hflat ⟨_, ⟨k, p, rfl⟩, rfl⟩ hm fun j hj => ?_⟩
    rw [hflatColumn j hj, hcolumn j hj]
    rfl

def exchanged : Table 2 2 Float := ⟨#v[0, 2, 1, 0]⟩

theorem solve_columnwise_exchanged :
    (⟨2, 2, exchanged⟩ : DenseMatrix Float).solve ⟨2, 2, ⟨#v[2, 4, 3, 5]⟩⟩ = .ok ⟨2, 2, ⟨#v[3, 5, 1, 2]⟩⟩ ∧
    ((⟨2, 2, ⟨#v[2, 4, 3, 5]⟩⟩ : DenseMatrix Float).column 1 >>= (⟨2, 2, exchanged⟩ : DenseMatrix Float).solve) =
      (⟨2, 2, ⟨#v[3, 5, 1, 2]⟩⟩ : DenseMatrix Float).column 1 := by
  have hpivots : (Factors.ofTable exchanged).singularRow? = none := by
    decide +kernel
  have hanswer : (Factors.ofTable exchanged).solve (⟨#v[2, 4, 3, 5]⟩ : Table 2 2 Float) =
      .ok ⟨#v[3, 5, 1, 2]⟩ := by
    rw [Factors.solve, hpivots]
    refine congrArg Except.ok ?_
    decide +kernel
  have hsolve : (⟨2, 2, exchanged⟩ : DenseMatrix Float).solve ⟨2, 2, ⟨#v[2, 4, 3, 5]⟩⟩ =
      .ok ⟨2, 2, ⟨#v[3, 5, 1, 2]⟩⟩ := by
    rw [solve_eq, hanswer]
    rfl
  exact ⟨hsolve, (solve_columnwise exchanged _ (by decide)).1.column_eq _ hsolve 1 (by decide)⟩

end DenseMatrix

end Navigation
