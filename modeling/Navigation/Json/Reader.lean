import Navigation.Text.Bytes
import Navigation.Text.Hex

namespace Navigation.Json

inductive Failure where
  | malformed
  | truncated
  | unfit
  deriving DecidableEq, Repr

abbrev Reader (α : Type) := List Char → Except Failure (α × List Char)

def isBlank (c : Char) : Bool := c = ' ' || c = '\n' || c = '\t' || c = '\r'

def skipBlanks (s : List Char) : List Char := s.dropWhile isBlank

def unexpected (s : List Char) : Failure := if s.isEmpty then .truncated else .malformed

def skipWord : List Char → List Char → Except Failure (List Char)
  | [], s => .ok s
  | _ :: _, [] => .error .truncated
  | w :: word, c :: s => if c = w then skipWord word s else .error .malformed

def skipMark (c : Char) (s : List Char) : Except Failure (List Char) :=
  match skipBlanks s with
  | d :: rest => if d = c then .ok rest else .error .malformed
  | [] => .error .truncated

def unit : Reader Nat
  | a :: b :: c :: d :: rest =>
    match Text.hexValue? a, Text.hexValue? b, Text.hexValue? c, Text.hexValue? d with
    | some a, some b, some c, some d => .ok (((a * 16 + b) * 16 + c) * 16 + d, rest)
    | _, _, _, _ => .error .malformed
  | s => .error (if Text.byteLength s < 4 then .truncated else .malformed)

def escaped? : Char → Option Char
  | '"' => some '"'
  | '\\' => some '\\'
  | '/' => some '/'
  | 'b' => some '\x08'
  | 'f' => some '\x0c'
  | 'n' => some '\n'
  | 'r' => some '\r'
  | 't' => some '\t'
  | _ => none

def isHighSurrogate (n : Nat) : Bool := 0xD800 ≤ n && n < 0xDC00

def isLowSurrogate (n : Nat) : Bool := 0xDC00 ≤ n && n < 0xE000

def codePoint : Reader Char := fun s => do
  let (high, s) ← unit s
  if isLowSurrogate high then throw .malformed
  if isHighSurrogate high then
    let s ← skipWord ['\\', 'u'] s
    let (low, s) ← unit s
    if isLowSurrogate low then
      return (Char.ofNat (0x10000 + (high - 0xD800) * 0x400 + (low - 0xDC00)), s)
    else
      throw .malformed
  else
    return (Char.ofNat high, s)

def stringTail : Nat → Reader (List Char)
  | 0, _ => .error .truncated
  | _ + 1, [] => .error .truncated
  | _ + 1, '"' :: s => .ok ([], s)
  | _ + 1, ['\\'] => .error .truncated
  | fuel + 1, '\\' :: 'u' :: s => do
    let (c, s) ← codePoint s
    let (text, s) ← stringTail fuel s
    return (c :: text, s)
  | fuel + 1, '\\' :: e :: s => do
    match escaped? e with
    | some c =>
      let (text, s) ← stringTail fuel s
      return (c :: text, s)
    | none => throw .malformed
  | fuel + 1, c :: s =>
    if c < ' ' then .error .malformed
    else do
      let (text, s) ← stringTail fuel s
      return (c :: text, s)

def skipString : Nat → List Char → Except Failure (List Char)
  | 0, _ => .error .truncated
  | _ + 1, [] => .error .truncated
  | _ + 1, '"' :: s => .ok s
  | _ + 1, ['\\'] => .error .truncated
  | fuel + 1, '\\' :: 'u' :: s => do
    let (_, s) ← unit s
    skipString fuel s
  | fuel + 1, '\\' :: e :: s =>
    if (escaped? e).isSome then skipString fuel s else .error .malformed
  | fuel + 1, c :: s => if c < ' ' then .error .malformed else skipString fuel s

def string : Reader (List Char) := fun s => stringTail (s.length + 1) s

end Navigation.Json
