/-! The arithmetic that matrix routines need. -/

namespace Navigation

class Scalar (α : Type) extends Zero α, One α, Add α, Sub α, Mul α, Div α, Neg α, BEq α where
  ofNat : Nat → α
  decimal : Nat → Nat → α
  abs : α → α
  sqrt : α → α
  lt : α → α → Bool
  le : α → α → Bool

instance : Scalar Float where
  zero := 0.0
  one := 1.0
  ofNat := Float.ofNat
  decimal m e := Float.ofScientific m true e
  abs := Float.abs
  sqrt := Float.sqrt
  lt x y := x < y
  le x y := x ≤ y

namespace Scalar

variable {α : Type} [Scalar α]

def pivotTolerance : α := decimal 1 14

def rotationTolerance : α := decimal 1 12

def singularTolerance : α := decimal 1 10

def epsilon : α := 1 / ofNat (Nat.pow 2 52)

def negligible (x : α) : Bool := lt (abs x) pivotTolerance

def sum (xs : List α) : α := xs.foldl (· + ·) (-0)

end Scalar

end Navigation
