import Navigation.Decimal.Nearest
import Navigation.Toml.Lexeme
import Navigation.Toml.Value
import Navigation.Word

namespace Navigation.Toml

def moreDigits (digit : Char → Bool) : List Char → List Char × List Char
  | [] => ([], [])
  | c :: s =>
    if digit c then
      let (ds, rest) := moreDigits digit s
      (c :: ds, rest)
    else match c, s with
      | '_', d :: s =>
        if digit d then
          let (ds, rest) := moreDigits digit s
          (d :: ds, rest)
        else ([], '_' :: d :: s)
      | c, s => ([], c :: s)

def digitRun (digit : Char → Bool) : Reader (List Char)
  | c :: s =>
    if digit c then
      let (ds, rest) := moreDigits digit s
      some (c :: ds, rest)
    else none
  | [] => none

def sign : List Char → Bool × List Char
  | '-' :: s => (true, s)
  | '+' :: s => (false, s)
  | s => (false, s)

def decimalDigits : Reader (List Char)
  | '0' :: s => some (['0'], s)
  | s => digitRun Char.isDigit s

def integerOf (negative : Bool) (n : Nat) : Option Value :=
  let i : Int := if negative then -n else n
  if -Word.half ≤ i ∧ i < Word.half then some (.integer i) else none

def based (base : Nat) (digit : Char → Bool) : Reader Value := fun s => do
  let (digits, s) ← digitRun digit s
  return (← integerOf false (natural base digits), s)

def integer : Reader Value
  | '0' :: 'x' :: s => based 16 isHex s
  | '0' :: 'o' :: s => based 8 (fun c => '0' ≤ c && c ≤ '7') s
  | '0' :: 'b' :: s => based 2 (fun c => c = '0' || c = '1') s
  | s => do
    let (negative, s) := sign s
    let (digits, s) ← decimalDigits s
    return (← integerOf negative (natural 10 digits), s)

def exponentPart : Reader (Option Int)
  | c :: s =>
    if c = 'e' || c = 'E' then do
      let (negative, s) := sign s
      let (digits, s) ← digitRun Char.isDigit s
      let e : Int := natural 10 digits
      return (some (if negative then -e else e), s)
    else some (none, c :: s)
  | [] => some (none, [])

def fractionPart : Reader (Option (List Char))
  | '.' :: s => do
    let (digits, s) ← digitRun Char.isDigit s
    return (some digits, s)
  | s => some (none, s)

def floatOf (negative : Bool) (digits : Nat) (exponent : Int) : Option Value :=
  match Decimal.read? negative digits exponent with
  | some x => some (.float x)
  | none => if negative then some (.float (-1.0 / 0.0)) else none

def float : Reader Value := fun s => do
  let (negative, s) := sign s
  let (whole, s) ← decimalDigits s
  let (fraction, s) ← fractionPart s
  let (exponent, s) ← exponentPart s
  if fraction.isNone && exponent.isNone then none
  else
    let fraction := fraction.getD []
    return (← floatOf negative (natural 10 (whole ++ fraction))
      (exponent.getD 0 - fraction.length), s)

def specialFloat : Reader Value := fun s =>
  let (negative, s) := sign s
  match s with
  | 'i' :: 'n' :: 'f' :: s => some (.float (if negative then -1.0 / 0.0 else 1.0 / 0.0), s)
  | 'n' :: 'a' :: 'n' :: s => some (.float (0.0 / 0.0), s)
  | _ => none

def field (n low high : Nat) : Reader Nat := fun s =>
  let digits := s.take n
  let value := natural 10 digits
  if digits.length = n ∧ digits.all Char.isDigit ∧ low ≤ value ∧ value ≤ high then
    some (value, s.drop n)
  else none

def mark (c : Char) : List Char → Option (List Char)
  | d :: s => if d = c then some s else none
  | [] => none

def daysIn (year month : Nat) : Nat :=
  if month = 2 then
    if year % 4 = 0 ∧ (year % 100 ≠ 0 ∨ year % 400 = 0) then 29 else 28
  else if month = 4 ∨ month = 6 ∨ month = 9 ∨ month = 11 then 30
  else 31

def skipDate? (s : List Char) : Option (List Char) := do
  let (year, s) ← field 4 0 9999 s
  let (month, s) ← field 2 1 12 (← mark '-' s)
  let (_, s) ← field 2 1 (daysIn year month) (← mark '-' s)
  return s

def skipTime? (s : List Char) : Option (List Char) := do
  let (_, s) ← field 2 0 23 s
  let (_, s) ← field 2 0 59 (← mark ':' s)
  let (_, s) ← field 2 0 60 (← mark ':' s)
  match s with
  | '.' :: c :: rest => return if c.isDigit then rest.dropWhile Char.isDigit else s
  | s => return s

def skipOffset (s : List Char) : List Char :=
  let numeric (s : List Char) : Option (List Char) := do
    let (_, s) ← field 2 0 23 s
    let (_, s) ← field 2 0 59 (← mark ':' s)
    return s
  match s with
  | c :: rest =>
    if c = 'Z' || c = 'z' then rest
    else if c = '+' || c = '-' then (numeric rest).getD s
    else s
  | [] => []

def skipDateTime? (s : List Char) : Option (List Char) :=
  match skipDate? s with
  | some (c :: rest) =>
    if c = 'T' || c = 't' || c = ' ' then
      match skipTime? rest with
      | some rest => some (skipOffset rest)
      | none => some (c :: rest)
    else some (c :: rest)
  | some [] => some []
  | none => skipTime? s

def dateTime : Reader Value := fun s => do
  let rest ← skipDateTime? s
  return (.dateTime (s.take (s.length - rest.length)), rest)

def number : Reader Value := fun s =>
  dateTime s <|> float s <|> specialFloat s <|> integer s

end Navigation.Toml
