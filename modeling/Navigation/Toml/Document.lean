import Navigation.Toml.Number

namespace Navigation.Toml

mutual

def value : Nat → Nat → Reader Value
  | 0, _, _ => none
  | fuel + 1, depth, s => match s with
    | [] => none
    | '"' :: _ => do
      let (text, s) ← string s
      return (.string text, s)
    | '\'' :: _ => do
      let (text, s) ← string s
      return (.string text, s)
    | '[' :: s =>
      if depth + 1 < depthLimit then do
        let (xs, s) ← elements fuel (depth + 1) s
        return (.array false xs, s)
      else none
    | '\x7b' :: s =>
      if depth + 1 < depthLimit then
        match skipBlanks s with
        | '\x7d' :: s => some (.table .inline [], s)
        | s => do
          let (members, s) ← inlineMembers fuel (depth + 1) [] s
          return (.table .inline members, s)
      else none
    | 't' :: 'r' :: 'u' :: 'e' :: s => some (.boolean true, s)
    | 'f' :: 'a' :: 'l' :: 's' :: 'e' :: s => some (.boolean false, s)
    | s => number s

def elements : Nat → Nat → Reader (List Value)
  | 0, _, _ => none
  | fuel + 1, depth, s => match filler s with
    | ']' :: s => some ([], s)
    | s => do
      let (x, s) ← value fuel depth s
      match filler s with
      | ']' :: s => return ([x], s)
      | ',' :: s =>
        let (xs, s) ← elements fuel depth s
        return (x :: xs, s)
      | _ => none

def inlineMembers : Nat → Nat → Members → Reader Members
  | 0, _, _, _ => none
  | fuel + 1, depth, members, s => do
    let ((path, key), s) ← dottedKey s
    let s ← mark '=' s
    let (v, s) ← value fuel depth (skipBlanks s)
    let members ← members.insert? path key v
    match skipBlanks s with
    | '\x7d' :: s => return (members, s)
    | ',' :: s => inlineMembers fuel depth members s
    | _ => none

end

structure Reading where
  members : Members
  header : List Key

namespace Reading

def keyValue (r : Reading) (s : List Char) : Option (Reading × List Char) := do
  let ((path, key), s) ← dottedKey s
  let s := skipBlanks (← mark '=' s)
  let (v, s) ← value (2 * s.length + 2) 0 s
  let members ← r.members.descend? r.header (Members.insert? path key v)
  return ({ r with members }, ← skipLineEnd? s)

def tableHeader (r : Reading) (s : List Char) : Option (Reading × List Char) := do
  let ((path, key), s) ← dottedKey s
  let members ← r.members.descend? path (Members.openTable? key)
  return (⟨members, path ++ [key]⟩, ← skipLineEnd? (← mark ']' s))

def elementHeader (r : Reading) (s : List Char) : Option (Reading × List Char) := do
  let ((path, key), s) ← dottedKey s
  let members ← r.members.descend? path (Members.openElement? key)
  return (⟨members, path ++ [key]⟩, ← skipLineEnd? (← mark ']' (← mark ']' s)))

def run : Nat → Reading → List Char → Option Reading
  | 0, _, _ => none
  | fuel + 1, r, s => match skipBlanks s with
    | [] => some r
    | '#' :: s => do run fuel r (← skipLineEnd? ('#' :: s))
    | '\n' :: s => run fuel r s
    | '\r' :: s => do run fuel r (← skipNewline? ('\r' :: s))
    | '[' :: '[' :: s => do
      let (r, s) ← r.elementHeader s
      run fuel r s
    | '[' :: s => do
      let (r, s) ← r.tableHeader s
      run fuel r s
    | s => do
      let (r, s) ← r.keyValue s
      run fuel r s

end Reading

def byteOrderMark : Char := '\ufeff'

def document? (text : List Char) : Option Members :=
  let s := if text.head? = some byteOrderMark then text.drop 1 else text
  (Reading.run (s.length + 1) ⟨[], []⟩ s).map Reading.members

end Navigation.Toml
