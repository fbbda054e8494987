namespace Navigation.Decimal

structure Magnitude where
  significand : Nat
  exponent : Int
  deriving DecidableEq, Repr

inductive Value where
  | undefined
  | infinite
  | finite (magnitude : Magnitude)
  deriving DecidableEq, Repr

def leastExponent : Int := -1074

def fractionBits : Nat := 52

def exponentBits : Nat := 11

def isNegative (bits : UInt64) : Bool := Nat.pow 2 63 ≤ bits.toNat

def Value.ofBits (bits : UInt64) : Value :=
  let fraction : Nat := bits.toNat % Nat.pow 2 fractionBits
  let biased : Nat := bits.toNat / Nat.pow 2 fractionBits % Nat.pow 2 exponentBits
  if biased = Nat.pow 2 exponentBits - 1 then
    if fraction = 0 then .infinite else .undefined
  else if biased = 0 then
    .finite ⟨fraction, leastExponent⟩
  else
    .finite ⟨Nat.pow 2 fractionBits + fraction, leastExponent + ((biased : Int) - 1)⟩

def Magnitude.num (v : Magnitude) : Nat := v.significand * Nat.pow 2 v.exponent.toNat

def Magnitude.den (v : Magnitude) : Nat := Nat.pow 2 (-v.exponent).toNat

def roundHalfEven (num den : Nat) : Nat :=
  let q := num / den
  let r := num % den
  if 2 * r < den then q
  else if den < 2 * r then q + 1
  else if q % 2 = 0 then q
  else q + 1

end Navigation.Decimal
