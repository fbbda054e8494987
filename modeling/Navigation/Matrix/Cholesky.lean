import Navigation.Matrix.Basic

/-! The lower triangular factor of a positive definite table, row after row. -/

namespace Navigation

namespace Table

variable {n : Nat} {α : Type} [Scalar α]

def remainder (t l : Table n n α) (i j : Fin n) : α :=
  Fin.foldl n (fun sum k => if k < j then sum - l.get i k * l.get j k else sum) (t.get i j)

def choleskyRow (t l : Table n n α) (i : Fin n) : Table n n α :=
  Fin.foldl n (fun l j =>
    if j < i then l.set i j (t.remainder l i j / l.get j j) else l) l

def choleskyStep (t l : Table n n α) (i : Fin n) : Except (DenseMatrix.Error α) (Table n n α) :=
  let l := t.choleskyRow l i
  let d := t.remainder l i i
  if Scalar.le d 0 then .error (.notPositiveDefinite i d)
  else .ok (l.set i i (Scalar.sqrt d))

def cholesky (t : Table n n α) : Except (DenseMatrix.Error α) (Table n n α) :=
  (List.finRange n).foldlM t.choleskyStep zero

end Table

namespace DenseMatrix

variable {α : Type} [Scalar α]

def cholesky (a : DenseMatrix α) : Except (Error α) (DenseMatrix α) := do
  let t ← a.square .cholesky
  return ⟨a.rows, a.rows, ← t.cholesky⟩

end DenseMatrix

end Navigation
