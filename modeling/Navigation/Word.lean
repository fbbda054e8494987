namespace Navigation

inductive Overflow where
  | addition
  | subtraction
  | multiplication
  | negation
  | capacity
  deriving DecidableEq, Repr

def Overflow.message : Overflow → String
  | .addition => "attempt to add with overflow"
  | .subtraction => "attempt to subtract with overflow"
  | .multiplication => "attempt to multiply with overflow"
  | .negation => "attempt to negate with overflow"
  | .capacity => "capacity overflow"

namespace Word

def bound : Nat := Nat.pow 2 64

def half : Nat := Nat.pow 2 63

def greatest : Nat := bound - 1

def add (a b : Nat) : Except Overflow Nat :=
  if a + b < bound then .ok (a + b) else .error .addition

def mul (a b : Nat) : Except Overflow Nat :=
  if a * b < bound then .ok (a * b) else .error .multiplication

def saturatingMul (a b : Nat) : Nat := min (a * b) greatest

def room (bytes count : Nat) : Except Overflow Unit :=
  if bytes * count < half then .ok () else .error .capacity

def area (bytes rows cols : Nat) : Except Overflow Nat := do
  let count ← mul rows cols
  room bytes count
  return count

def toSigned (n : Nat) : Int := if n < half then n else (n : Int) - bound

def ofSigned (i : Int) : Nat := (i % bound).toNat

def signed (reason : Overflow) (i : Int) : Except Overflow Int :=
  if -half ≤ i ∧ i < half then .ok i else .error reason

end Word

end Navigation
