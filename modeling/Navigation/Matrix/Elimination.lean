import Navigation.Matrix.Basic

namespace Navigation

namespace Table

variable {m n : Nat} {α : Type} [Scalar α]

def pivotRow (t : Table m n α) (k : Fin m) (c : Fin n) : Fin m :=
  Fin.foldl m (fun best r =>
    if k < r && Scalar.lt (Scalar.abs (t.get best c)) (Scalar.abs (t.get r c)) then r else best) k

end Table

/-- Triangular factors of a table whose row `i` is row `perm[i]` of the given one: the strict lower
part of `lu` with a unit diagonal, and the upper part. `sign` is the sign of the permutation. -/
structure Factors (n : Nat) (α : Type) where
  lu : Table n n α
  perm : Vector (Fin n) n
  sign : α

namespace Factors

variable {m n : Nat} {α : Type} [Scalar α]

def pivot (f : Factors n α) (k : Fin n) : Factors n α :=
  let p := f.lu.pivotRow k k
  if p = k then f
  else ⟨f.lu.swapRows k p, f.perm.swap k p k.isLt p.isLt, -f.sign⟩

def eliminate (t : Table n n α) (k : Fin n) : Table n n α :=
  Table.ofFn fun r c =>
    if k < r then
      let factor := t.get r k / t.get k k
      if c = k then factor
      else if k < c && !(factor == 0) then t.get r c - factor * t.get k c
      else t.get r c
    else t.get r c

def stage (f : Factors n α) (k : Fin n) : Factors n α :=
  let f := f.pivot k
  if Scalar.negligible (f.lu.get k k) then f else { f with lu := eliminate f.lu k }

def ofTable (t : Table n n α) : Factors n α :=
  Fin.foldl n stage ⟨t, Vector.ofFn id, 1⟩

def determinant (f : Factors n α) : α :=
  if (List.finRange n).any fun i => Scalar.negligible (f.lu.get i i) then 0
  else Fin.foldl n (fun d i => d * f.lu.get i i) f.sign

def forward (f : Factors n α) (b : Vector α n) : Vector α n :=
  Fin.foldl n (fun y i =>
    y.set i (Fin.foldl n (fun sum j => if j < i then sum - f.lu.get i j * y.get j else sum)
      (b.get (f.perm.get i))) i.isLt) (Vector.replicate n 0)

def backward (f : Factors n α) (y : Vector α n) : Vector α n :=
  Fin.foldr n (fun i x =>
    x.set i (Fin.foldl n (fun sum j => if i < j then sum - f.lu.get i j * x.get j else sum)
      (y.get i) / f.lu.get i i) i.isLt) (Vector.replicate n 0)

def singularRow? (f : Factors n α) : Option (Fin n) :=
  (List.finRange n).reverse.find? fun i => Scalar.negligible (f.lu.get i i)

def solve (f : Factors n α) (b : Table n m α) : Except (DenseMatrix.Error α) (Table n m α) :=
  match f.singularRow? with
  | some i => if m = 0 then .ok Table.zero else .error (.singular i (f.lu.get i i))
  | none =>
    let columns := Vector.ofFn fun j : Fin m =>
      f.backward (f.forward (Vector.ofFn fun i => b.get i j))
    .ok (Table.ofFn fun i j => (columns.get j).get i)

end Factors

namespace Table

variable {n : Nat} {α : Type} [Scalar α]

def augment (t : Table n n α) : Table n (n + n) α :=
  ofFn fun i j =>
    if h : j.val < n then t.get i ⟨j, h⟩ else if j.val - n = i.val then 1 else 0

def reduce (t : Table n (n + n) α) (k : Fin n) : Table n (n + n) α :=
  let c : Fin (n + n) := k.castAdd n
  let pivot := t.get k c
  let scaled := Vector.ofFn fun j => t.get k j / pivot
  ofFn fun i j =>
    if i = k then scaled.get j
    else if t.get i c == 0 then t.get i j
    else t.get i j - t.get i c * scaled.get j

def inverse (t : Table n n α) : Except (DenseMatrix.Error α) (Table n n α) := do
  let reduced ← (List.finRange n).foldlM (fun (t : Table n (n + n) α) k =>
    let c : Fin (n + n) := k.castAdd n
    let p := t.pivotRow k c
    if Scalar.negligible (t.get p c) then .error (.singular k (t.get p c))
    else .ok ((if p = k then t else t.swapRows k p).reduce k)) t.augment
  return ofFn fun i j => reduced.get i (Fin.natAdd n j)

end Table

namespace DenseMatrix

variable {α : Type} [Scalar α]

def inverse (a : DenseMatrix α) : Except (Error α) (DenseMatrix α) := do
  let t ← a.square .inverse
  return ⟨a.rows, a.rows, ← t.inverse⟩

def solve (a b : DenseMatrix α) : Except (Error α) (DenseMatrix α) := do
  let t ← a.square .solve
  if h : b.rows = a.rows then
    return ⟨a.rows, b.cols, ← (Factors.ofTable t).solve (h ▸ b.table)⟩
  else
    throw (.mismatch .solve a.shape b.shape)

def determinant (a : DenseMatrix α) : Except (Error α) α := do
  let t ← a.square .determinant
  return (Factors.ofTable t).determinant

end DenseMatrix

end Navigation
