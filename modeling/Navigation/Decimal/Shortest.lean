import Navigation.Decimal.Binary

/-! The fewest decimal digits that read back as a double. -/

namespace Navigation.Decimal

structure Scientific where
  digits : Nat
  exponent : Int
  deriving DecidableEq, Repr

inductive Tie where
  | even
  | up
  deriving DecidableEq, Repr

structure Interval where
  low : Nat
  value : Nat
  high : Nat
  exponent : Int
  closed : Bool

def Interval.of (v : Magnitude) : Interval where
  low := 4 * v.significand -
    (if v.significand = Nat.pow 2 fractionBits ∧ leastExponent < v.exponent then 1 else 2)
  value := 4 * v.significand
  high := 4 * v.significand + 2
  exponent := v.exponent - 2
  closed := v.significand % 2 = 0

namespace Interval

variable (i : Interval)

def step (e : Int) : Nat := Nat.pow 2 (-i.exponent).toNat * Nat.pow 10 e.toNat

def scale (e : Int) : Nat := Nat.pow 2 i.exponent.toNat * Nat.pow 10 (-e).toNat

def holds (e : Int) (d : Nat) : Bool :=
  let x := d * i.step e
  let low := i.low * i.scale e
  let high := i.high * i.scale e
  if i.closed then low ≤ x && x ≤ high else low < x && x < high

def onGrid (tie : Tie) (e : Int) : Option Nat :=
  let value := i.value * i.scale e
  let step := i.step e
  let d := value / step
  match i.holds e d, i.holds e (d + 1) with
  | false, false => none
  | true, false => some d
  | false, true => some (d + 1)
  | true, true =>
    let below := value - d * step
    let above := (d + 1) * step - value
    if below < above then some d
    else if above < below then some (d + 1)
    else match tie with
      | .even => if d % 2 = 0 then some d else some (d + 1)
      | .up => some (d + 1)

def search (tie : Tie) : Nat → Int → Scientific
  | 0, e => ⟨i.value * i.scale e / i.step e, e⟩
  | n + 1, e => match i.onGrid tie e with
    | some d => ⟨d, e⟩
    | none => search tie n (e - 1)

end Interval

def coarse (v : Magnitude) : Int := (Nat.log2 v.significand + v.exponent) * 30103 / 100000 + 2

def grids : Nat := 22

def shortest (tie : Tie) (v : Magnitude) : Scientific :=
  if v.significand = 0 then ⟨0, 0⟩
  else (Interval.of v).search tie grids (coarse v)

end Navigation.Decimal
