import Navigation.Word
import Navigation.Matrix.Scalar
import Navigation.Table

/-! Matrices whose shape is known only when the program runs. -/

namespace Navigation

namespace Table

variable {m n k : Nat} {α : Type} [Scalar α]

def zero : Table m n α := ⟨Vector.replicate (m * n) 0⟩

def identity : Table n n α := ofFn fun i j => if i = j then 1 else 0

def diagonal (values : Vector α n) : Table n n α :=
  ofFn fun i j => if i = j then values.get i else 0

def mul (a : Table m k α) (b : Table k n α) : Table m n α :=
  ofFn fun i j => Fin.foldl k (fun sum t => sum + a.get i t * b.get t j) 0

end Table

structure Shape where
  rows : Nat
  cols : Nat
  deriving DecidableEq, Repr

instance : ToString Shape where
  toString s := s!"{s.rows}x{s.cols}"

structure DenseMatrix (α : Type) where
  rows : Nat
  cols : Nat
  table : Table rows cols α

namespace DenseMatrix

inductive Operation where
  | new
  | fromRows
  | add
  | sub
  | multiply
  | inverse
  | solve
  | determinant
  | cholesky
  | eigenSymmetric
  deriving DecidableEq, Repr

def Operation.name : Operation → String
  | .new => "new"
  | .fromRows => "from_rows"
  | .add => "add"
  | .sub => "sub"
  | .multiply => "multiply"
  | .inverse => "inverse"
  | .solve => "solve"
  | .determinant => "determinant"
  | .cholesky => "cholesky"
  | .eigenSymmetric => "eigen_symmetric"

inductive Error (α : Type) where
  | mismatch (operation : Operation) (left right : Shape)
  | singular (column : Nat) (pivot : α)
  | notPositiveDefinite (row : Nat) (value : α)
  | entryOutside (row col : Nat) (shape : Shape)
  | rowOutside (row : Nat) (shape : Shape)
  | columnOutside (col : Nat) (shape : Shape)
  | overflow (reason : Overflow)
  | unordered
  | places

def entryBytes : Nat := 8

variable {α : Type}

def shape (a : DenseMatrix α) : Shape := ⟨a.rows, a.cols⟩

def data (a : DenseMatrix α) : Array α := a.table.entries.toArray

@[simp] theorem size_data (a : DenseMatrix α) : a.data.size = a.rows * a.cols := by
  simp [data]

def isSquare (a : DenseMatrix α) : Bool := a.rows == a.cols

def area (rows cols : Nat) : Except (Error α) Nat :=
  (Word.area entryBytes rows cols).mapError .overflow

def ofData (rows cols : Nat) (data : Array α) : Except (Error α) (DenseMatrix α) := do
  let _ ← (Word.mul rows cols).mapError Error.overflow
  if h : data.size = rows * cols then
    return ⟨rows, cols, ⟨⟨data, h⟩⟩⟩
  else
    throw (.mismatch .new ⟨rows, cols⟩ ⟨data.size, 1⟩)

def ofRows (rows : List (List α)) : Except (Error α) (DenseMatrix α) := do
  let cols := (rows.head?.map List.length).getD 0
  let _ ← area rows.length cols
  match rows.zipIdx.find? fun r => r.1.length != cols with
  | some (row, i) => throw (.mismatch .fromRows ⟨1, cols⟩ ⟨i, row.length⟩)
  | none => ofData rows.length cols rows.flatten.toArray

def columnVector (values : Array α) : DenseMatrix α :=
  ⟨values.size, 1, ⟨⟨values, by simp⟩⟩⟩

def transpose (a : DenseMatrix α) : DenseMatrix α := ⟨a.cols, a.rows, a.table.transpose⟩

def position (a : DenseMatrix α) (r c : Nat) : Except (Error α) (Fin a.rows × Fin a.cols) :=
  if h : r < a.rows ∧ c < a.cols then .ok (⟨r, h.1⟩, ⟨c, h.2⟩)
  else .error (.entryOutside r c a.shape)

def get (a : DenseMatrix α) (r c : Nat) : Except (Error α) α := do
  let (i, j) ← a.position r c
  return a.table.get i j

def set (a : DenseMatrix α) (r c : Nat) (x : α) : Except (Error α) (DenseMatrix α) := do
  let (i, j) ← a.position r c
  return ⟨a.rows, a.cols, a.table.set i j x⟩

def row (a : DenseMatrix α) (r : Nat) : Except (Error α) (DenseMatrix α) :=
  if h : r < a.rows then .ok ⟨1, a.cols, Table.ofFn fun _ j => a.table.get ⟨r, h⟩ j⟩
  else .error (.rowOutside r a.shape)

def column (a : DenseMatrix α) (c : Nat) : Except (Error α) (DenseMatrix α) :=
  if h : c < a.cols then .ok ⟨a.rows, 1, Table.ofFn fun i _ => a.table.get i ⟨c, h⟩⟩
  else .error (.columnOutside c a.shape)

def sameShape (a b : DenseMatrix α) (operation : Operation) :
    Except (Error α) (Table a.rows a.cols α) :=
  if h : b.rows = a.rows ∧ b.cols = a.cols then .ok (h.1 ▸ h.2 ▸ b.table)
  else .error (.mismatch operation a.shape b.shape)

def square (a : DenseMatrix α) (operation : Operation) : Except (Error α) (Table a.rows a.rows α) :=
  if h : a.cols = a.rows then .ok (h ▸ a.table)
  else .error (.mismatch operation a.shape ⟨a.cols, a.rows⟩)

section

variable [Scalar α]

def zeros (rows cols : Nat) : Except (Error α) (DenseMatrix α) := do
  let _ ← area rows cols
  return ⟨rows, cols, Table.zero⟩

def identity (n : Nat) : Except (Error α) (DenseMatrix α) := do
  let _ ← area n n
  return ⟨n, n, Table.identity⟩

def diagonal (values : Array α) : Except (Error α) (DenseMatrix α) := do
  let _ ← area values.size values.size
  return ⟨values.size, values.size, Table.diagonal ⟨values, rfl⟩⟩

def add (a b : DenseMatrix α) : Except (Error α) (DenseMatrix α) := do
  let t ← a.sameShape b .add
  return ⟨a.rows, a.cols, a.table.zipWith (· + ·) t⟩

def sub (a b : DenseMatrix α) : Except (Error α) (DenseMatrix α) := do
  let t ← a.sameShape b .sub
  return ⟨a.rows, a.cols, a.table.zipWith (· - ·) t⟩

def scale (a : DenseMatrix α) (s : α) : DenseMatrix α := ⟨a.rows, a.cols, a.table.map (· * s)⟩

def multiply (a b : DenseMatrix α) : Except (Error α) (DenseMatrix α) :=
  if h : b.rows = a.cols then do
    let _ ← area a.rows b.cols
    return ⟨a.rows, b.cols, a.table.mul (h ▸ b.table)⟩
  else
    .error (.mismatch .multiply a.shape b.shape)

def trace (a : DenseMatrix α) : α :=
  Scalar.sum (List.ofFn fun i : Fin (min a.rows a.cols) =>
    a.table.get ⟨i, by omega⟩ ⟨i, by omega⟩)

def norm (a : DenseMatrix α) : α :=
  Scalar.sqrt (Scalar.sum (a.data.toList.map fun x => x * x))

def isSymmetric (a : DenseMatrix α) (tol : α) : Bool :=
  if h : a.cols = a.rows then
    let t : Table a.rows a.rows α := h ▸ a.table
    (List.finRange a.rows).all fun i => (List.finRange a.rows).all fun j =>
      !(decide (i < j) && Scalar.lt tol (Scalar.abs (t.get i j - t.get j i)))
  else
    false

def approxEq (a b : DenseMatrix α) (tol : α) : Bool :=
  a.shape = b.shape &&
    (a.data.toList.zip b.data.toList).all fun (x, y) => Scalar.le (Scalar.abs (x - y)) tol

instance : BEq (DenseMatrix α) where
  beq a b := a.shape == b.shape && a.data == b.data

end

end DenseMatrix

end Navigation
