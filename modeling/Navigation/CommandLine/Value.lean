import Navigation.Grid.Cell
import Navigation.Text.Blank

/-! Values of command-line options: sizes, and points written as two sizes with a comma between them. -/

namespace Navigation.CommandLine

inductive SizeError where
  | empty
  | invalidDigit
  | tooLarge
  deriving DecidableEq, Repr

def SizeError.message : SizeError → String
  | .empty => "cannot parse integer from empty string"
  | .invalidDigit => "invalid digit found in string"
  | .tooLarge => "number too large to fit in target type"

def readDigits (n : Nat) : List Char → Except SizeError Nat
  | [] => .ok n
  | c :: s =>
    if c.isDigit then
      let n := 10 * n + (c.toNat - '0'.toNat)
      if n < Word.bound then readDigits n s else .error .tooLarge
    else .error .invalidDigit

def readSize : List Char → Except SizeError Nat
  | [] => .error .empty
  | ['+'] => .error .invalidDigit
  | '+' :: s => readDigits 0 s
  | s => readDigits 0 s

inductive PointError where
  | format (text : List Char)
  | coordinate (text : List Char)
  deriving DecidableEq, Repr

def PointError.message : PointError → String
  | .format text => s!"expected x,y but got '{String.ofList text}'"
  | .coordinate text => s!"invalid coordinate '{String.ofList text}'"

def readCoordinate (s : List Char) : Except PointError Nat :=
  match readSize (Text.trim s) with
  | .ok n => .ok n
  | .error _ => .error (.coordinate (Text.trim s))

def splitComma? : List Char → Option (List Char × List Char)
  | [] => none
  | c :: s =>
    if c = ',' then some ([], s)
    else (splitComma? s).map fun (x, y) => (c :: x, y)

def readPoint (s : List Char) : Except PointError Point :=
  match splitComma? s with
  | none => .error (.format s)
  | some (x, y) => do return ⟨← readCoordinate x, ← readCoordinate y⟩

end Navigation.CommandLine
