import Navigation.Matrix.Basic
import Navigation.Matrix.Ranking.Order

/-! Eigenpairs of a symmetric table by cyclic rotations. -/

namespace Navigation

structure Rotation (n : Nat) (α : Type) where
  p : Fin n
  q : Fin n
  cosine : α
  sine : α

namespace Rotation

variable {m n : Nat} {α : Type} [Scalar α]

def clearing (t : Table n n α) (p q : Fin n) : Rotation n α :=
  let entry := t.get p q
  let theta := (t.get q q - t.get p p) / (Scalar.ofNat 2 * entry)
  let sign : α := if Scalar.le 0 theta then 1 else -1
  let tangent := sign / (Scalar.abs theta + Scalar.sqrt (theta * theta + 1))
  let cosine := 1 / Scalar.sqrt (tangent * tangent + 1)
  ⟨p, q, cosine, tangent * cosine⟩

def turnCols (r : Rotation n α) (t : Table m n α) : Table m n α :=
  Table.ofFn fun i j =>
    if j = r.p then r.cosine * t.get i r.p - r.sine * t.get i r.q
    else if j = r.q then r.sine * t.get i r.p + r.cosine * t.get i r.q
    else t.get i j

def turnRows (r : Rotation n α) (t : Table n m α) : Table n m α :=
  Table.ofFn fun i j =>
    if i = r.p then r.cosine * t.get r.p j - r.sine * t.get r.q j
    else if i = r.q then r.sine * t.get r.p j + r.cosine * t.get r.q j
    else t.get i j

end Rotation

structure Diagonalization (n : Nat) (α : Type) where
  table : Table n n α
  axes : Table n n α

namespace Diagonalization

variable {n : Nat} {α : Type} [Scalar α]

def turn (d : Diagonalization n α) (r : Rotation n α) : Diagonalization n α :=
  ⟨r.turnRows (r.turnCols d.table), r.turnCols d.axes⟩

def step (d : Diagonalization n α) (p q : Fin n) : Diagonalization n α :=
  if d.table.get p q == 0 then d else d.turn (Rotation.clearing d.table p q)

def sweep (d : Diagonalization n α) : Diagonalization n α :=
  Fin.foldl n (fun d p => Fin.foldl n (fun d q => if p < q then d.step p q else d) d) d

def offDiagonal (d : Diagonalization n α) : α :=
  Fin.foldl n (fun most p => Fin.foldl n (fun most q =>
    if p < q && Scalar.lt most (Scalar.abs (d.table.get p q)) then Scalar.abs (d.table.get p q)
    else most) most) 0

def run : Nat → Diagonalization n α → Diagonalization n α
  | 0, d => d
  | sweeps + 1, d =>
    if Scalar.lt d.offDiagonal Scalar.rotationTolerance then d else run sweeps d.sweep

def ofTable (t : Table n n α) : Diagonalization n α :=
  run (100 * n * n) ⟨t, Table.identity⟩

end Diagonalization

structure Eigenpairs (n : Nat) (α : Type) where
  values : Vector α n
  vectors : Table n n α

namespace Eigenpairs

variable {n : Nat} {α : Type} [Scalar α]

def ofOrder (d : Diagonalization n α) (order : Vector (Fin n) n) : Eigenpairs n α :=
  ⟨order.map fun i => d.table.get i i, d.axes.gatherCols order⟩

/-- The diagonal by falling magnitude. Undefined values compare with none, and many values of which
some are undefined may have no order. -/
def ofDiagonalization? (d : Diagonalization n α) : Option (Eigenpairs n α) :=
  let defined := (List.finRange n).all fun i => d.table.get i i == d.table.get i i
  let order := Ranking.order? defined fun i j : Fin n =>
    Scalar.lt (Scalar.abs (d.table.get j j)) (Scalar.abs (d.table.get i i))
  order.map (ofOrder d)

def ofTable? (t : Table n n α) : Option (Eigenpairs n α) :=
  ofDiagonalization? (Diagonalization.ofTable t)

end Eigenpairs

namespace DenseMatrix

variable {α : Type} [Scalar α]

def eigenSymmetric (a : DenseMatrix α) : Except (Error α) (Eigenpairs a.rows α) := do
  let t ← a.square .eigenSymmetric
  match Eigenpairs.ofTable? t with
  | some e => return e
  | none => throw .unordered

end DenseMatrix

end Navigation
