import Navigation.CommandLine.Value
import Navigation.Pattern.Reader
import Navigation.Text.Bytes
import Navigation.Text.Graphic

/-! Log filters: directives with commas between them. -/

namespace Navigation.CommandLine.LogFilter

inductive Side where
  | start
  | stop
  deriving DecidableEq, Repr

def Side.name : Side → String
  | start => "start"
  | stop => "end"

structure Misfit where
  side : Side
  position : Nat
  start : Nat
  char : Char
  deriving DecidableEq, Repr

def Misfit.message (m : Misfit) : String :=
  s!"{m.side.name} byte index {m.position} is not a char boundary; it is inside " ++
    s!"'{Text.shown m.char}' (bytes {m.start}..{m.start + m.char.utf8Size} of string)"

def splitAt (side : Side) (position : Nat) (s : List Char) :
    Except Misfit (List Char × List Char) :=
  let (front, rest) := Text.splitBytes position s
  match rest with
  | [] => .ok (front, [])
  | c :: _ =>
    if Text.byteLength front = position then .ok (front, rest)
    else .error ⟨side, position, Text.byteLength front, c⟩

def slice (start stop : Nat) (s : List Char) : Except Misfit (List Char) := do
  let (before, _) ← splitAt .start start s
  let (upTo, _) ← splitAt .stop stop s
  return upTo.drop before.length

inductive Error where
  | level
  | directive
  | pattern (fault : Pattern.Fault)
  | misfit (misfit : Misfit)
  deriving DecidableEq, Repr

def levels : List String := ["off", "error", "warn", "info", "debug", "trace"]

def Error.message : Error → String
  | .level =>
    "error parsing level filter: expected one of " ++
      String.join (levels.map fun l => s!"\"{l}\", ") ++ "or a number 0-5"
  | .directive => "invalid filter directive"
  | .pattern fault => s!"invalid field filter: {fault.message}"
  | .misfit m => m.message

def isLevel (s : List Char) : Bool :=
  (match readSize s with
    | .ok n => n ≤ 5
    | .error _ => false) ||
  levels.contains (String.ofList (s.map Char.toLower))

def isUnsigned (s : List Char) : Bool :=
  let whole := s.takeWhile Char.isDigit
  let (fraction, rest) := match s.dropWhile Char.isDigit with
    | '.' :: s => (s.takeWhile Char.isDigit, s.dropWhile Char.isDigit)
    | s => ([], s)
  let isExponent : Bool := match rest with
    | [] => true
    | e :: s =>
      let digits := match s with
        | '+' :: s => s
        | '-' :: s => s
        | s => s
      (e = 'e' || e = 'E') && !digits.isEmpty && digits.all Char.isDigit
  (!whole.isEmpty || !fraction.isEmpty) && isExponent ||
    ["inf", "infinity", "nan"].contains (String.ofList (s.map Char.toLower))

def isNumber : List Char → Bool
  | '+' :: s => isUnsigned s
  | '-' :: s => isUnsigned s
  | s => isUnsigned s

def checkField (field : List Char) : Except Error Unit :=
  match field.dropWhile (· ≠ '=') with
  | [] => .ok ()
  | _ :: s =>
    let value := s.takeWhile (· ≠ '=')
    if isNumber value then .ok () else (Pattern.check value).mapError .pattern

inductive State where
  | start
  | word
  | span (start : Nat)
  | field (start : Nat)
  | fields
  | target
  | level (start : Nat)
  deriving DecidableEq, Repr

def startsWord (c : Char) : Bool :=
  c = '-' || c = ':' || c = '_' || Text.isAlphabetic c || Text.isNumeric c

def take (text : List Char) (start stop : Nat) (state : State) : Except Error State := do
  let _ ← (slice start stop text).mapError .misfit
  return state

def step (text : List Char) (state : State) (position : Nat) (c : Char) : Except Error State :=
  match state with
  | .start =>
    if c = '[' then .ok (.span 1) else if startsWord c then .ok .word else .error .directive
  | .word =>
    if c = '=' then take text 0 position (.level (position + 1))
    else if c = '[' then take text 0 position (.span (position + 1))
    else .ok .word
  | .span start =>
    if c = ']' then take text start position .target
    else if c = '\x7b' then take text start position (.field (position + 1))
    else .ok (.span start)
  | .field start =>
    if c = '\x7d' then do
      let field ← (slice start position text).mapError .misfit
      if field.isEmpty then throw .directive
      checkField field
      return .fields
    else .ok (.field start)
  | .fields => if c = ']' then .ok .target else .error .directive
  | .target => if c = '=' then .ok (.level (position + 1)) else .error .directive
  | .level start => .ok (.level start)

def readFrom (text : List Char) (state : State) (position : Nat) : List Char → Except Error State
  | [] => .ok state
  | c :: s => do readFrom text (← step text state position c) (position + c.utf8Size) s

def checkDirective (text : List Char) : Except Error Unit := do
  match ← readFrom text .start 0 (Text.trim text) with
  | .word => return
  | .target => return
  | .level start =>
    let (_, level) ← (splitAt .start start text).mapError .misfit
    if level.isEmpty || isLevel level then return else throw .level
  | _ => throw .directive

def directives (text : List Char) : List (List Char) :=
  text.foldr (fun c parts => match parts with
    | part :: parts => if c = ',' then [] :: part :: parts else (c :: part) :: parts
    | [] => [[c]]) [[]]

def check (text : String) : Except Error Unit :=
  ((directives text.toList).filter fun d => !d.isEmpty).forM checkDirective

end Navigation.CommandLine.LogFilter
