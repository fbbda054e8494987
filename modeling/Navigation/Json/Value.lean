import Navigation.Decimal.Layout

/-! JSON values and their text over several lines, two blanks deeper with every level. -/

namespace Navigation.Json

inductive Value where
  | natural (n : Nat)
  | double (x : Float)
  | boolean (b : Bool)
  | array (elements : List Value)
  | object (members : List (String × Value))

def newline (level : Nat) : String := "\n" ++ String.ofList (List.replicate (2 * level) ' ')

mutual

def Value.pretty (level : Nat) : Value → String
  | .natural n => toString n
  | .double x => match Decimal.document? x with
    | some text => String.ofList text
    | none => "null"
  | .boolean b => if b then "true" else "false"
  | .array [] => "[]"
  | .array (x :: xs) =>
    "[" ++ newline (level + 1) ++ x.pretty (level + 1) ++ prettyElements (level + 1) xs ++
      newline level ++ "]"
  | .object [] => "\x7b\x7d"
  | .object (m :: ms) =>
    "\x7b" ++ newline (level + 1) ++ "\"" ++ m.1 ++ "\": " ++ m.2.pretty (level + 1) ++
      prettyMembers (level + 1) ms ++ newline level ++ "\x7d"

def prettyElements (level : Nat) : List Value → String
  | [] => ""
  | x :: xs => "," ++ newline level ++ x.pretty level ++ prettyElements level xs

def prettyMembers (level : Nat) : List (String × Value) → String
  | [] => ""
  | m :: ms =>
    "," ++ newline level ++ "\"" ++ m.1 ++ "\": " ++ m.2.pretty level ++ prettyMembers level ms

end

end Navigation.Json
