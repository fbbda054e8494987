import Navigation.Pattern.Class
import Navigation.Text.Alphabetic
import Navigation.Text.Numeric

/-! Reading a pattern from the left, with a stack of the groups that are open. -/

namespace Navigation.Pattern

structure OpenGroup where
  mode : Mode
  alternatives : List Outline
  parts : List (Option Outline)
  deriving DecidableEq, Repr

namespace OpenGroup

def add (g : OpenGroup) (part : Outline) : OpenGroup := { g with parts := some part :: g.parts }

def branch (g : OpenGroup) : Outline := .join (g.parts.map (·.getD .leaf))

def outline (g : OpenGroup) : Outline := .join (g.branch :: g.alternatives)

def alternative (g : OpenGroup) : OpenGroup := ⟨g.mode, g.branch :: g.alternatives, []⟩

def repeat? (g : OpenGroup) : Option OpenGroup :=
  match g.parts with
  | some part :: parts => some { g with parts := some part.deeper :: parts }
  | _ => none

end OpenGroup

def flagLetters : List Char := ['i', 'm', 's', 'U', 'u', 'R', 'x']

def areFlags (flags : List Char) : Bool :=
  flags.all (fun c => c = '-' || flagLetters.contains c) && flags.eraseDups = flags &&
    flags.getLast? ≠ some '-'

def startsName (c : Char) : Bool := c = '_' || Text.isAlphabetic c

def continuesName (c : Char) : Bool :=
  c = '_' || c = '.' || c = '[' || c = ']' || Text.isAlphabetic c || Text.isNumeric c

def isName : List Char → Bool
  | [] => false
  | c :: s => startsName c && s.all continuesName

structure Reading where
  group : OpenGroup
  outer : List OpenGroup
  names : List (List Char)
  deriving DecidableEq, Repr

namespace Reading

def initial : Reading := ⟨⟨.initial, [], []⟩, [], []⟩

def openWith (r : Reading) (mode : Mode) : Reading :=
  { r with group := ⟨mode, [], []⟩, outer := r.group :: r.outer }

def openNamed? (r : Reading) (s : List Char) : Option (Reading × List Char) :=
  let name := s.takeWhile (· ≠ '>')
  match s.dropWhile (· ≠ '>') with
  | _ :: s =>
    if isName name && !r.names.contains name then
      some ({ r.openWith r.group.mode with names := name :: r.names }, s)
    else none
  | [] => none

def openFlags? (r : Reading) (s : List Char) : Option (Reading × List Char) :=
  let isFlag (c : Char) : Bool := c ≠ ':' && c ≠ ')'
  let flags := s.takeWhile isFlag
  let mode := r.group.mode.withFlags flags
  if areFlags flags then
    match s.dropWhile isFlag with
    | ':' :: s => some (r.openWith mode, s)
    | _ :: s =>
      if flags.isEmpty then none
      else some ({ r with group := { r.group with mode, parts := none :: r.group.parts } }, s)
    | [] => none
  else none

def open? (r : Reading) (s : List Char) : Option (Reading × List Char) :=
  match r.group.mode.skip s with
  | '?' :: 'P' :: '<' :: s => r.openNamed? s
  | '?' :: '<' :: s => r.openNamed? s
  | '?' :: s => r.openFlags? s
  | s => some (r.openWith r.group.mode, s)

def close? (r : Reading) : Option Reading :=
  match r.outer with
  | g :: outer => some { r with group := g.add r.group.outline.deeper, outer }
  | [] => none

def add (r : Reading) (part : Outline) : Reading := { r with group := r.group.add part }

def addAtom? (r : Reading) (a : Atom) : Option Reading :=
  if r.group.mode.admits a then
    some (r.add ⟨0, a = .wordBorder && r.group.mode.unicode⟩)
  else none

def finish? : Nat → Reading → List Char → Option Outline
  | 0, _, _ => none
  | fuel + 1, r, s => match r.group.mode.skip s with
    | [] => if r.outer.isEmpty then some r.group.outline else none
    | '(' :: s => do
      let (r, s) ← r.open? s
      finish? fuel r s
    | ')' :: s => do finish? fuel (← r.close?) s
    | '|' :: s => finish? fuel { r with group := r.group.alternative } s
    | '[' :: s => do
      let (c, s) ← OpenClass.open? r.group.mode s
      let (depth, s) ← class? r.group.mode (s.length + 1) c [] s
      finish? fuel (r.add ⟨depth, false⟩) s
    | '.' :: s => if r.group.mode.unicode then finish? fuel (r.add .leaf) s else none
    | '^' :: s => finish? fuel (r.add .leaf) s
    | '$' :: s => finish? fuel (r.add .leaf) s
    | '\x7b' :: _ => none
    | c :: s =>
      if c = '?' ∨ c = '*' ∨ c = '+' then do
        let group ← r.group.repeat?
        finish? fuel { r with group } (if s.head? = some '?' then s.drop 1 else s)
      else do
        let (a, s) ← atom? r.group.mode (c :: s)
        finish? fuel (← r.addAtom? a) s

end Reading

def outline? (text : List Char) : Option Outline :=
  (Reading.initial.finish? (text.length + 1) text).filter fun o => o.depth ≤ deepest

def check (text : List Char) : Except Fault Unit :=
  match outline? text with
  | none => .error .malformed
  | some o => if o.wordBorder then .error .wordBorder else .ok ()

end Navigation.Pattern
