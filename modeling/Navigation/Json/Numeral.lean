import Navigation.Decimal.Nearest
import Navigation.Json.Reader
import Navigation.Word

namespace Navigation.Json

structure Numeral where
  negative : Bool
  digits : Nat
  exponent : Int
  whole : Bool
  deriving DecidableEq, Repr

namespace Numeral

def natural (digits : List Char) : Nat := Nat.ofDigitChars 10 digits 0

def integerPart : Reader (List Char)
  | [] => .error .truncated
  | '0' :: s =>
    if (s.head?.map Char.isDigit).getD false then .error .malformed else .ok (['0'], s)
  | c :: s =>
    if c.isDigit then .ok (c :: s.takeWhile Char.isDigit, s.dropWhile Char.isDigit)
    else .error .malformed

def digitRun : Reader (List Char) := fun s =>
  if (s.head?.map Char.isDigit).getD false then
    .ok (s.takeWhile Char.isDigit, s.dropWhile Char.isDigit)
  else
    .error (unexpected s)

def fractionPart : Reader (List Char)
  | '.' :: s => digitRun s
  | s => .ok ([], s)

def isExponentMark (c : Char) : Bool := c = 'e' || c = 'E'

def exponentPart : Reader (Option Int)
  | c :: s =>
    if isExponentMark c then do
      let (negative, s) := match s with
        | '-' :: s => (true, s)
        | '+' :: s => (false, s)
        | s => (false, s)
      let (ds, s) ← digitRun s
      let e : Int := natural ds
      return (some (if negative then -e else e), s)
    else
      return (none, c :: s)
  | [] => .ok (none, [])

def unsigned (negative : Bool) : Reader Numeral := fun s => do
  let (whole, s) ← integerPart s
  let (fraction, s) ← fractionPart s
  let (exponent, s) ← exponentPart s
  return (⟨negative, natural (whole ++ fraction), exponent.getD 0 - fraction.length,
    fraction.isEmpty && exponent.isNone⟩, s)

def toFloat? (n : Numeral) : Option Float := Decimal.read? n.negative n.digits n.exponent

def toWord? (n : Numeral) : Option Nat :=
  if n.whole && !n.negative && n.digits < Word.bound then some n.digits else none

def check (n : Numeral) : Except Failure Unit :=
  if n.toFloat?.isSome then .ok () else .error .malformed

end Numeral

def skipNumber (s : List Char) : Except Failure (List Char) :=
  match Numeral.unsigned false s with
  | .ok (_, s) => .ok s
  | .error _ => .error .malformed

mutual

def skipValue : Nat → List Char → Except Failure (List Char)
  | 0, _ => .error .truncated
  | fuel + 1, s => match skipBlanks s with
    | [] => .error .truncated
    | '"' :: s => skipString (s.length + 1) s
    | 'n' :: s => skipWord ['u', 'l', 'l'] s
    | 't' :: s => skipWord ['r', 'u', 'e'] s
    | 'f' :: s => skipWord ['a', 'l', 's', 'e'] s
    | '-' :: s => skipNumber s
    | '[' :: s => match skipBlanks s with
      | ']' :: s => .ok s
      | s => skipElements fuel s
    | '{' :: s => match skipBlanks s with
      | '}' :: s => .ok s
      | s => skipMembers fuel s
    | c :: s => if c.isDigit then skipNumber (c :: s) else .error .malformed

def skipElements : Nat → List Char → Except Failure (List Char)
  | 0, _ => .error .truncated
  | fuel + 1, s => do
    let s ← skipValue fuel s
    match skipBlanks s with
    | ',' :: s => skipElements fuel s
    | ']' :: s => return s
    | s => throw (unexpected s)

def skipMembers : Nat → List Char → Except Failure (List Char)
  | 0, _ => .error .truncated
  | fuel + 1, s => do
    let s ← skipMark '"' s
    let s ← skipString (s.length + 1) s
    let s ← skipMark ':' s
    let s ← skipValue fuel s
    match skipBlanks s with
    | ',' :: s => skipMembers fuel s
    | '}' :: s => return s
    | s => throw (unexpected s)

end

def wrongKind (s : List Char) : Failure :=
  let after (result : Except Failure Unit) : Failure :=
    match result with
    | .ok () => .unfit
    | .error f => f
  let number (negative : Bool) (s : List Char) : Failure := after do
    let (n, _) ← Numeral.unsigned negative s
    n.check
  match s with
  | [] => .truncated
  | '[' :: _ => .unfit
  | '{' :: _ => .unfit
  | '"' :: s => after do let _ ← string s
  | 'n' :: s => after do let _ ← skipWord ['u', 'l', 'l'] s
  | 't' :: s => after do let _ ← skipWord ['r', 'u', 'e'] s
  | 'f' :: s => after do let _ ← skipWord ['a', 'l', 's', 'e'] s
  | '-' :: s => number true s
  | c :: s => if c.isDigit then number false (c :: s) else .malformed

def number {α : Type} (convert : Numeral → Except Failure α) : Reader α := fun s => do
  let s := skipBlanks s
  match s with
  | '-' :: rest =>
    let (n, rest) ← Numeral.unsigned true rest
    return (← convert n, rest)
  | c :: _ =>
    if c.isDigit then
      let (n, rest) ← Numeral.unsigned false s
      return (← convert n, rest)
    else
      throw (wrongKind s)
  | [] => throw .truncated

def word : Reader Nat := number fun n =>
  match n.toWord? with
  | some w => .ok w
  | none => do
    n.check
    throw .unfit

def double : Reader Float := number fun n =>
  match n.toFloat? with
  | some x => .ok x
  | none => .error .malformed

def elements {α : Type} (element : Reader α) : Nat → Reader (List α)
  | 0, _ => .error .truncated
  | fuel + 1, s => do
    let (x, s) ← element s
    match skipBlanks s with
    | ']' :: s => return ([x], s)
    | ',' :: s => match skipBlanks s with
      | ']' :: _ => throw .malformed
      | s =>
        let (xs, s) ← elements element fuel s
        return (x :: xs, s)
    | s => throw (unexpected s)

def array {α : Type} (element : Reader α) : Reader (List α) := fun s =>
  match skipBlanks s with
  | '[' :: s => match skipBlanks s with
    | ']' :: s => .ok ([], s)
    | s => elements element (s.length + 1) s
  | s => .error (wrongKind s)

end Navigation.Json
