import Navigation.Text.Blank

namespace Navigation.Pattern

inductive Fault where
  | malformed
  | wordBorder
  deriving DecidableEq, Repr

def Fault.message : Fault → String
  | .malformed => "error building NFA"
  | .wordBorder =>
    "unsupported regex feature for DFAs: cannot build DFAs for regexes with Unicode word " ++
      "boundaries; switch to ASCII word boundaries, or heuristically enable Unicode word " ++
      "boundaries or use a different regex engine"

def deepest : Nat := 250

def depthOf : List Nat → Nat
  | [] => 0
  | [d] => d
  | ds => (ds.max?.getD 0) + 1

structure Outline where
  depth : Nat
  wordBorder : Bool
  deriving DecidableEq, Repr

namespace Outline

def leaf : Outline := ⟨0, false⟩

def deeper (o : Outline) : Outline := { o with depth := o.depth + 1 }

def join (parts : List Outline) : Outline :=
  ⟨depthOf (parts.map (·.depth)), parts.any (·.wordBorder)⟩

end Outline

structure Mode where
  ignoreCase : Bool
  unicode : Bool
  spaced : Bool
  deriving DecidableEq, Repr

inductive Atom where
  | literal (c : Char) (byte : Bool)
  | kind (negated : Bool)
  | edge
  | wordBorder
  deriving DecidableEq, Repr

namespace Mode

def initial : Mode := ⟨false, true, false⟩

def withFlag (on : Bool) (m : Mode) : Char → Mode
  | 'i' => { m with ignoreCase := on }
  | 'u' => { m with unicode := on }
  | 'x' => { m with spaced := on }
  | _ => m

def withFlags (m : Mode) (flags : List Char) : Mode :=
  (flags.dropWhile (· ≠ '-')).foldl (withFlag false)
    ((flags.takeWhile (· ≠ '-')).foldl (withFlag true) m)

def skipFiller (comment : Bool) : List Char → List Char
  | [] => []
  | c :: s =>
    if comment then skipFiller (c ≠ '\n') s
    else if Text.isWhite c then skipFiller false s
    else if c = '#' then skipFiller true s
    else c :: s

def skip (m : Mode) (s : List Char) : List Char := if m.spaced then skipFiller false s else s

def admits (m : Mode) : Atom → Bool
  | .literal c byte => if m.unicode then !m.ignoreCase else c ≤ '\x7f' || !byte
  | .kind negated => !m.unicode && !negated
  | .edge => true
  | .wordBorder => true

def admitsMember (m : Mode) : Atom → Bool
  | .literal c _ => if m.unicode then !m.ignoreCase else c ≤ '\x7f'
  | .kind negated => !m.unicode && !negated
  | .edge => false
  | .wordBorder => false

def admitsNamed (m : Mode) (negated : Bool) : Bool :=
  if m.unicode then !m.ignoreCase else !negated

end Mode

end Navigation.Pattern
