import Navigation.Toml.Document
import Navigation.Word

/-! Records of natural numbers as TOML documents. -/

namespace Navigation.Toml

def entryLine (entry : Key × Nat) : List Char :=
  entry.1 ++ ' ' :: '=' :: ' ' :: (Nat.toDigits 10 entry.2 ++ ['\n'])

/-- Reads the fields of a record by their keys, and writes a record in the order of its fields. -/
structure Codec where
  read : List Key → List Char → Option (List (Option Nat))
  write : List (Key × Nat) → Option (List Char)

def Codec.standard : Codec where
  read keys text := do Value.naturals? keys (.table .header (← document? text))
  write entries :=
    if entries.all fun e => e.2 < Word.half then some (entries.flatMap entryLine) else none

end Navigation.Toml
