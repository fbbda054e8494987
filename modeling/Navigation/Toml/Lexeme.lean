import Navigation.Text.Hex

/-! The characters of TOML: blanks, line ends, comments, bare words and strings. -/

namespace Navigation.Toml

abbrev Reader (α : Type) := List Char → Option (α × List Char)

def isBlank (c : Char) : Bool := c = ' ' || c = '\t'

def skipBlanks (s : List Char) : List Char := s.dropWhile isBlank

def isPlain (c : Char) : Bool := c = '\t' || ' ' ≤ c && c ≠ '\x7f'

def skipNewline? : List Char → Option (List Char)
  | '\n' :: s => some s
  | '\r' :: '\n' :: s => some s
  | _ => none

def skipComment : List Char → List Char
  | '#' :: s => s.dropWhile isPlain
  | s => s

def skipLineEnd? (s : List Char) : Option (List Char) :=
  match skipComment (skipBlanks s) with
  | [] => some []
  | s => skipNewline? s

def skipFiller : Nat → List Char → List Char
  | 0, s => s
  | fuel + 1, s => match s with
    | ' ' :: s => skipFiller fuel s
    | '\t' :: s => skipFiller fuel s
    | '\n' :: s => skipFiller fuel s
    | '\r' :: '\n' :: s => skipFiller fuel s
    | '#' :: s => skipFiller fuel (s.dropWhile isPlain)
    | s => s

def filler (s : List Char) : List Char := skipFiller s.length s

def isHex (c : Char) : Bool := (Text.hexValue? c).isSome

def digitValue (c : Char) : Nat := (Text.hexValue? c).getD 0

def natural (base : Nat) (digits : List Char) : Nat :=
  digits.foldl (fun n c => base * n + digitValue c) 0

def codePoint (n : Nat) : Reader Char := fun s =>
  let digits := s.take n
  let code := natural 16 digits
  if digits.length = n ∧ digits.all isHex ∧ code.isValidChar then
    some (Char.ofNat code, s.drop n)
  else none

def escape : Reader Char
  | 'b' :: s => some ('\x08', s)
  | 't' :: s => some ('\t', s)
  | 'n' :: s => some ('\n', s)
  | 'f' :: s => some ('\x0c', s)
  | 'r' :: s => some ('\r', s)
  | '"' :: s => some ('"', s)
  | '\\' :: s => some ('\\', s)
  | 'u' :: s => codePoint 4 s
  | 'U' :: s => codePoint 8 s
  | _ => none

def basicTail : Nat → Reader (List Char)
  | 0, _ => none
  | _ + 1, [] => none
  | _ + 1, '"' :: s => some ([], s)
  | fuel + 1, '\\' :: s => do
    let (c, s) ← escape s
    let (text, s) ← basicTail fuel s
    return (c :: text, s)
  | fuel + 1, c :: s =>
    if isPlain c then do
      let (text, s) ← basicTail fuel s
      return (c :: text, s)
    else none

def literalTail : Reader (List Char) := fun s =>
  let plain (c : Char) : Bool := isPlain c && c ≠ '\''
  match s.dropWhile plain with
  | '\'' :: rest => some (s.takeWhile plain, rest)
  | _ => none

def closing (quote : Char) (s : List Char) : Option (List Char × List Char) :=
  let run := s.takeWhile (· = quote)
  if run.length < 3 then none
  else
    let kept := min (run.length - 3) 2
    some (List.replicate kept quote, s.drop (kept + 3))

def skipContinuation? (s : List Char) : Option (List Char) := do
  let s ← skipNewline? (skipBlanks s)
  let rec skip : Nat → List Char → List Char
    | 0, s => s
    | fuel + 1, s => match s with
      | ' ' :: s => skip fuel s
      | '\t' :: s => skip fuel s
      | '\n' :: s => skip fuel s
      | '\r' :: '\n' :: s => skip fuel s
      | s => s
  return skip s.length s

def linesTail (quote : Char) (escapes : Bool) : Nat → Reader (List Char)
  | 0, _ => none
  | _ + 1, [] => none
  | fuel + 1, c :: s =>
    if c = quote then
      match closing quote (c :: s) with
      | some r => some r
      | none => do
        let (text, s) ← linesTail quote escapes fuel s
        return (c :: text, s)
    else if c = '\\' && escapes then
      match skipContinuation? s with
      | some s => linesTail quote escapes fuel s
      | none => do
        let (e, s) ← escape s
        let (text, s) ← linesTail quote escapes fuel s
        return (e :: text, s)
    else match skipNewline? (c :: s) with
      | some s => do
        let (text, s) ← linesTail quote escapes fuel s
        return ('\n' :: text, s)
      | none =>
        if isPlain c then do
          let (text, s) ← linesTail quote escapes fuel s
          return (c :: text, s)
        else none

def lines (quote : Char) (escapes : Bool) : Reader (List Char) := fun s =>
  let s := (skipNewline? s).getD s
  linesTail quote escapes (s.length + 1) s

def lineString : Reader (List Char)
  | '"' :: s => basicTail (s.length + 1) s
  | '\'' :: s => literalTail s
  | _ => none

def string : Reader (List Char)
  | '"' :: '"' :: '"' :: s => lines '"' true s
  | '\'' :: '\'' :: '\'' :: s => lines '\'' false s
  | s => lineString s

def isBare (c : Char) : Bool := c.isAlphanum || c = '-' || c = '_'

def simpleKey : Reader (List Char) := fun s =>
  match s with
  | '"' :: _ => lineString s
  | '\'' :: _ => lineString s
  | _ =>
    if (s.takeWhile isBare).isEmpty then none
    else some (s.takeWhile isBare, s.dropWhile isBare)

def keyParts : Nat → Reader (List (List Char))
  | 0, _ => none
  | fuel + 1, s => do
    let (part, s) ← simpleKey (skipBlanks s)
    match skipBlanks s with
    | '.' :: s =>
      let (parts, s) ← keyParts fuel s
      return (part :: parts, s)
    | s => return ([part], s)

def depthLimit : Nat := 80

def dottedKey : Reader (List (List Char) × List Char) := fun s => do
  let (parts, s) ← keyParts (s.length + 1) s
  let last ← parts.getLast?
  if parts.length < depthLimit then return ((parts.dropLast, last), s) else none

end Navigation.Toml
