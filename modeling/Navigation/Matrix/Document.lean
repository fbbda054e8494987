import Navigation.Decimal.Layout
import Navigation.Json.Numeral
import Navigation.Matrix.Basic

/-! Matrices as JSON documents: an object of `rows`, `cols` and `data`, or the list of the three. -/

namespace Navigation.DenseMatrix

open Json

inductive DocumentError where
  | failure (failure : Failure)
  | overflow (reason : Overflow)
  deriving DecidableEq, Repr

structure Fields where
  rows : Option Nat
  cols : Option Nat
  data : Option (List Float)

namespace Fields

def member (fields : Fields) (key : List Char) (s : List Char) :
    Except Failure (Fields × List Char) :=
  if key = "rows".toList then
    if fields.rows.isSome then .error .unfit
    else do
      let (rows, s) ← word (← skipMark ':' s)
      return ({ fields with rows := some rows }, s)
  else if key = "cols".toList then
    if fields.cols.isSome then .error .unfit
    else do
      let (cols, s) ← word (← skipMark ':' s)
      return ({ fields with cols := some cols }, s)
  else if key = "data".toList then
    if fields.data.isSome then .error .unfit
    else do
      let (data, s) ← array double (← skipMark ':' s)
      return ({ fields with data := some data }, s)
  else do
    let s ← skipMark ':' s
    return (fields, ← skipValue (2 * s.length + 2) s)

def members (fields : Fields) : Nat → Reader Fields
  | 0, _ => .error .truncated
  | fuel + 1, s => do
    let (key, s) ← string (← skipMark '"' s)
    let (fields, s) ← fields.member key s
    match skipBlanks s with
    | '}' :: s => return (fields, s)
    | ',' :: s => members fields fuel s
    | s => throw (unexpected s)

end Fields

def separator (s : List Char) : Except Failure (List Char) :=
  match skipBlanks s with
  | ']' :: _ => .error .unfit
  | ',' :: s => match skipBlanks s with
    | ']' :: _ => .error .malformed
    | s => .ok s
  | s => .error (unexpected s)

def listForm : Reader Fields := fun s => do
  if (skipBlanks s).head? = some ']' then throw .unfit
  let (rows, s) ← word s
  let (cols, s) ← word (← separator s)
  let (data, s) ← array double (← separator s)
  match skipBlanks s with
  | ']' :: s => return (⟨some rows, some cols, some data⟩, s)
  | s => throw (unexpected s)

def objectForm : Reader Fields := fun s =>
  match skipBlanks s with
  | '}' :: s => .ok (⟨none, none, none⟩, s)
  | s => Fields.members ⟨none, none, none⟩ (s.length + 1) s

def fields : Reader Fields := fun s =>
  match skipBlanks s with
  | '[' :: s => listForm s
  | '{' :: s => objectForm s
  | s => .error (wrongKind s)

structure Raw where
  rows : Nat
  cols : Nat
  data : List Float
  rest : Except Failure Unit

def raw (text : List Char) : Except Failure Raw := do
  let (fields, rest) ← fields text
  match fields with
  | ⟨some rows, some cols, some data⟩ =>
    return ⟨rows, cols, data, if (skipBlanks rest).isEmpty then .ok () else .error .malformed⟩
  | _ => throw .unfit

/-- The matrix is built before what follows it is looked at. -/
def ofDocument (text : List Char) (read : List Char → Except Failure Raw := raw) :
    Except DocumentError (DenseMatrix Float) := do
  let found ← (read text).mapError .failure
  match ofData found.rows found.cols found.data.toArray with
  | .ok a =>
    found.rest.mapError .failure
    return a
  | .error (.overflow reason) => throw (.overflow reason)
  | .error _ => throw (.failure .unfit)

def entryText (x : Float) : List Char := (Decimal.document? x).getD "null".toList

def document (a : DenseMatrix Float) : List Char :=
  "\x7b\"rows\":".toList ++ Nat.toDigits 10 a.rows ++
    ",\"cols\":".toList ++ Nat.toDigits 10 a.cols ++
    ",\"data\":[".toList ++ [','].intercalate (a.data.toList.map entryText) ++ "]\x7d".toList

end Navigation.DenseMatrix
