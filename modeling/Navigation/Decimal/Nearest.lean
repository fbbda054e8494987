import Navigation.Decimal.Binary

/-! The double nearest to a quotient of natural numbers. -/

namespace Navigation.Decimal

def exponentFor (num den : Nat) : Int :=
  let e : Int := (Nat.log2 num : Int) - Nat.log2 den - 53
  let e := if num * Nat.pow 2 (-e).toNat / (den * Nat.pow 2 e.toNat) < Nat.pow 2 53 then e else e + 1
  max e leastExponent

def nearestBits (num den : Nat) : Nat :=
  if num = 0 then 0
  else
    let e := exponentFor num den
    (e - leastExponent).toNat * Nat.pow 2 fractionBits +
      roundHalfEven (num * Nat.pow 2 (-e).toNat) (den * Nat.pow 2 e.toNat)

def infinityBits : Nat := (Nat.pow 2 exponentBits - 1) * Nat.pow 2 fractionBits

def nearest? (negative : Bool) (num den : Nat) : Option Float :=
  let bits := nearestBits num den
  if bits < infinityBits then
    some (Float.ofBits (UInt64.ofNat (if negative then Nat.pow 2 63 + bits else bits)))
  else
    none

def read? (negative : Bool) (digits : Nat) (exponent : Int) : Option Float :=
  let point := (Nat.toDigits 10 digits).length + exponent
  if digits = 0 ∨ point < -330 then nearest? negative 0 1
  else if 310 < point then none
  else nearest? negative (digits * Nat.pow 10 exponent.toNat) (Nat.pow 10 (-exponent).toNat)

end Navigation.Decimal
