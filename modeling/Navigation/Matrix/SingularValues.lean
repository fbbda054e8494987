import Navigation.Matrix.Jacobi

namespace Navigation

structure SingularValues (m n : Nat) (α : Type) where
  u : Table m n α
  values : Vector α n
  v : Table n n α

namespace SingularValues

variable {m n : Nat} {α : Type} [Scalar α]

def clampedRoot (x : α) : α := Scalar.sqrt (if Scalar.lt 0 x then x else 0)

def ofEigenpairs (t : Table m n α) (e : Eigenpairs n α) : SingularValues m n α :=
  let roots := e.values.map clampedRoot
  let order := Ranking.order fun i j : Fin n => Scalar.lt (roots.get j) (roots.get i)
  let values := order.map roots.get
  let v := e.vectors.gatherCols order
  let image := t.mul v
  let u := Table.ofFn fun i j =>
    if Scalar.le (values.get j) Scalar.singularTolerance then 0 else image.get i j / values.get j
  ⟨u, values, v⟩

def ofTable? (t : Table m n α) : Option (SingularValues m n α) :=
  (Eigenpairs.ofTable? (t.transpose.mul t)).map (ofEigenpairs t)

def reconstruct (s : SingularValues m n α) : Table m n α :=
  (s.u.mul (Table.diagonal s.values)).mul s.v.transpose

def tolerance (s : SingularValues m n α) : α :=
  let greatest := s.values.toList.head?.getD 0
  let relative := Scalar.ofNat (max m n) * greatest * Scalar.sqrt Scalar.epsilon
  if Scalar.lt Scalar.singularTolerance relative then relative else Scalar.singularTolerance

def rank (s : SingularValues m n α) : Nat :=
  s.values.toList.countP fun x => Scalar.lt s.tolerance x

def pseudoInverse (s : SingularValues m n α) : Table n m α :=
  let tolerance := s.tolerance
  let inverses := s.values.map fun x => if Scalar.lt tolerance x then 1 / x else 0
  (s.v.mul (Table.diagonal inverses)).mul s.u.transpose

end SingularValues

namespace DenseMatrix

variable {α : Type} [Scalar α]

def singularValues (a : DenseMatrix α) : Except (Error α) (SingularValues a.rows a.cols α) := do
  let _ ← area a.cols a.cols
  match SingularValues.ofTable? a.table with
  | some s =>
    let _ ← area a.rows a.cols
    return s
  | none => throw .unordered

def pseudoInverse (a : DenseMatrix α) : Except (Error α) (DenseMatrix α) := do
  if a.rows < a.cols then
    let s ← a.transpose.singularValues
    return ⟨a.cols, a.rows, s.pseudoInverse.transpose⟩
  else
    let s ← a.singularValues
    return ⟨a.cols, a.rows, s.pseudoInverse⟩

end DenseMatrix

end Navigation
