import Navigation.Pattern.Basic
import Navigation.Text.Hex

namespace Navigation.Pattern

def hexDigits? (mode : Mode) : Nat → List Char → Option (List Nat × List Char)
  | 0, s => some ([], s)
  | _ + 1, [] => none
  | n + 1, c :: s => do
    let d ← Text.hexValue? c
    let (ds, s) ← hexDigits? mode n (mode.skip s)
    return (d :: ds, s)

def codePoint? (mode : Mode) (n : Nat) (s : List Char) : Option (Atom × List Char) := do
  let (ds, s) ← hexDigits? mode n (mode.skip s)
  let code := ds.foldl (fun code d => 16 * code + d) 0
  if code.isValidChar then return (.literal (Char.ofNat code) (n = 2), s) else none

def isMark (c : Char) : Bool := c ≤ '\x7f' && !c.isAlphanum && c ≠ '<' && c ≠ '>'

def escape? (mode : Mode) : List Char → Option (Atom × List Char)
  | [] => none
  | c :: s => match c with
    | 'x' => codePoint? mode 2 s
    | 'u' => codePoint? mode 4 s
    | 'U' => codePoint? mode 8 s
    | 'd' => some (.kind false, s)
    | 's' => some (.kind false, s)
    | 'w' => some (.kind false, s)
    | 'D' => some (.kind true, s)
    | 'S' => some (.kind true, s)
    | 'W' => some (.kind true, s)
    | 'a' => some (.literal '\x07' false, s)
    | 'f' => some (.literal '\x0c' false, s)
    | 't' => some (.literal '\t' false, s)
    | 'n' => some (.literal '\n' false, s)
    | 'r' => some (.literal '\r' false, s)
    | 'v' => some (.literal '\x0b' false, s)
    | 'A' => some (.edge, s)
    | 'z' => some (.edge, s)
    | 'b' => if s.head? = some '\x7b' then none else some (.wordBorder, s)
    | 'B' => some (.wordBorder, s)
    | '<' => some (.wordBorder, s)
    | '>' => some (.wordBorder, s)
    | c => if isMark c then some (.literal c false, s) else none

def atom? (mode : Mode) : List Char → Option (Atom × List Char)
  | [] => none
  | '\\' :: s => escape? mode s
  | c :: s => some (.literal c false, s)

def classNames : List String :=
  ["alnum", "alpha", "ascii", "blank", "cntrl", "digit", "graph", "lower", "print", "punct",
    "space", "upper", "word", "xdigit"]

def namedClass? : List Char → Option (Bool × List Char)
  | ':' :: s =>
    let (negated, s) := match s with
      | '^' :: s => (true, s)
      | s => (false, s)
    match s.dropWhile (· ≠ ':') with
    | ':' :: ']' :: rest =>
      if classNames.contains (String.ofList (s.takeWhile (· ≠ ':'))) then some (negated, rest)
      else none
    | _ => none
  | _ => none

def peek? (mode : Mode) (s : List Char) : Option Char :=
  if mode.spaced then
    match s.dropWhile Text.isWhite with
    | '#' :: s => (s.dropWhile Text.isWhite).head?
    | s => s.head?
  else s.head?

def skipMember? (mode : Mode) (s : List Char) : Option (List Char) := do
  let (first, s) ← atom? mode s
  let single (s : List Char) : Option (List Char) :=
    if mode.admitsMember first then some s else none
  match mode.skip s with
  | [] => none
  | '-' :: rest =>
    if peek? mode rest = some ']' ∨ peek? mode rest = some '-' then single ('-' :: rest)
    else do
      let (last, s) ← atom? mode (mode.skip rest)
      match first, last with
      | .literal a _, .literal b _ =>
        if a ≤ b ∧ mode.admitsMember first ∧ mode.admitsMember last then return s else none
      | _, _ => none
  | s => single s

inductive Stage where
  | start
  | dashes
  | members
  deriving DecidableEq, Repr

structure OpenClass where
  stage : Stage
  before : Option Nat
  members : List Nat
  deriving DecidableEq, Repr

namespace OpenClass

def open? (mode : Mode) (s : List Char) : Option (OpenClass × List Char) :=
  match mode.skip s with
  | '^' :: s => if mode.unicode then some (⟨.start, none, []⟩, mode.skip s) else none
  | s => some (⟨.start, none, []⟩, s)

def add (c : OpenClass) (stage : Stage) (depth : Nat) : OpenClass :=
  { c with stage, members := depth :: c.members }

def depth (c : OpenClass) : Nat :=
  match c.before with
  | none => depthOf c.members
  | some d => max d (depthOf c.members) + 1

def operator (c : OpenClass) : OpenClass := ⟨.members, some c.depth, []⟩

end OpenClass

def class? (mode : Mode) : Nat → OpenClass → List OpenClass → List Char → Option (Nat × List Char)
  | 0, _, _, _ => none
  | fuel + 1, c, outer, s => match c.stage, mode.skip s with
    | _, [] => none
    | .start, '-' :: s => literal fuel (c.add .dashes 0) outer '-' s
    | .dashes, '-' :: s => literal fuel (c.add .dashes 0) outer '-' s
    | .start, ']' :: s => literal fuel (c.add .members 0) outer ']' s
    | _, ']' :: s => match outer with
      | [] => some (c.depth + 1, s)
      | d :: outer => class? mode fuel (d.add .members (c.depth + 1)) outer s
    | _, '[' :: s => match namedClass? s with
      | some (negated, s) =>
        if mode.admitsNamed negated then class? mode fuel (c.add .members 0) outer s else none
      | none => do
        let (d, s) ← OpenClass.open? mode s
        class? mode fuel d (c :: outer) s
    | _, '&' :: '&' :: s => class? mode fuel c.operator outer s
    | _, '-' :: '-' :: s => class? mode fuel c.operator outer s
    | _, '~' :: '~' :: s => class? mode fuel c.operator outer s
    | _, s => do
      let s ← skipMember? mode s
      class? mode fuel (c.add .members 0) outer s
where
  literal (fuel : Nat) (c : OpenClass) (outer : List OpenClass) (x : Char) (s : List Char) :
      Option (Nat × List Char) :=
    if mode.admitsMember (.literal x false) then class? mode fuel c outer s else none

end Navigation.Pattern
