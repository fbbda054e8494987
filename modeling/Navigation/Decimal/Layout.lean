import Navigation.Decimal.Shortest

/-! How a double is written: its sign, the digits of `shortest`, a decimal point or an exponent. -/

namespace Navigation.Decimal

structure Layout where
  positional : Int → Bool
  fraction : Bool
  plus : Bool
  tie : Tie

namespace Layout

def plain : Layout where
  positional _ := true
  fraction := false
  plus := false
  tie := .up

def scientific : Layout where
  positional _ := false
  fraction := false
  plus := false
  tie := .up

def document : Layout where
  positional e := -5 ≤ e && e < 16
  fraction := true
  plus := true
  tie := .even

end Layout

def zeros (n : Nat) : List Char := List.replicate n '0'

def Scientific.positional (fraction : Bool) (s : Scientific) : List Char :=
  let digits := Nat.toDigits 10 s.digits
  let point := digits.length + s.exponent
  if 0 ≤ s.exponent then
    digits ++ zeros s.exponent.toNat ++ (if fraction then ['.', '0'] else [])
  else if 0 < point then
    digits.take point.toNat ++ '.' :: digits.drop point.toNat
  else
    '0' :: '.' :: zeros (-point).toNat ++ digits

def Scientific.exponential (plus : Bool) (s : Scientific) : List Char :=
  let digits := Nat.toDigits 10 s.digits
  let e := digits.length - 1 + s.exponent
  let sign := if e < 0 then ['-'] else if plus then ['+'] else []
  let mantissa := match digits with
    | d :: more => if more.isEmpty then [d] else d :: '.' :: more
    | [] => []
  mantissa ++ 'e' :: sign ++ Nat.toDigits 10 e.natAbs

def Magnitude.text (layout : Layout) (v : Magnitude) : List Char :=
  let s := shortest layout.tie v
  if layout.positional ((Nat.toDigits 10 s.digits).length - 1 + s.exponent) then
    s.positional layout.fraction
  else
    s.exponential layout.plus

def Magnitude.fixed (places : Nat) (v : Magnitude) : List Char :=
  let digits := Nat.toDigits 10 (roundHalfEven (v.num * Nat.pow 10 places) v.den)
  let padded := zeros (places + 1 - digits.length) ++ digits
  let point := padded.length - places
  if places = 0 then padded else padded.take point ++ '.' :: padded.drop point

def write (finite : Magnitude → List Char) (x : Float) : String :=
  let signed (text : List Char) := if isNegative x.toBits then '-' :: text else text
  String.ofList <| match Value.ofBits x.toBits with
    | .undefined => ['N', 'a', 'N']
    | .infinite => signed ['i', 'n', 'f']
    | .finite v => signed (finite v)

def plain (x : Float) : String := write (Magnitude.text .plain) x

def scientific (x : Float) : String := write (Magnitude.text .scientific) x

def fixed (places : Nat) (x : Float) : String := write (Magnitude.fixed places) x

def document? (x : Float) : Option (List Char) :=
  match Value.ofBits x.toBits with
  | .finite v =>
    let text := v.text .document
    some (if isNegative x.toBits then '-' :: text else text)
  | _ => none

end Navigation.Decimal
