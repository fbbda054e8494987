/-! TOML values, and the rules by which keys and headers extend a table. -/

namespace Navigation.Toml

abbrev Key := List Char

inductive Origin where
  | inline
  | header
  | implied
  | dotted
  deriving DecidableEq, Repr

inductive Value where
  | integer (i : Int)
  | float (x : Float)
  | boolean (b : Bool)
  | string (text : List Char)
  | dateTime (text : List Char)
  | array (growing : Bool) (elements : List Value)
  | table (origin : Origin) (members : List (Key × Value))

abbrev Members := List (Key × Value)

namespace Members

def replace (members : Members) (key : Key) (v : Value) : Members :=
  members.map fun m => if m.1 = key then (key, v) else m

def add (members : Members) (key : Key) (v : Value) : Members := members ++ [(key, v)]

def extendable (origin : Origin) (last : Bool) : Bool :=
  match origin with
  | .dotted => true
  | .implied => !last
  | _ => false

def insert? : List Key → Key → Value → Members → Option Members
  | [], key, v, members =>
    if (members.lookup key).isSome then none else some (members.add key v)
  | k :: path, key, v, members =>
    match members.lookup k with
    | none => do return members.add k (.table .dotted (← insert? path key v []))
    | some (.table origin inner) =>
      if extendable origin path.isEmpty then do
        return members.replace k (.table origin (← insert? path key v inner))
      else none
    | some (.array true elements) =>
      if path.isEmpty then none
      else match elements.getLast? with
        | some (.table origin inner) => do
          return members.replace k
            (.array true (elements.dropLast ++ [.table origin (← insert? path key v inner)]))
        | _ => none
    | some _ => none

def descend? : List Key → (Members → Option Members) → Members → Option Members
  | [], change, members => change members
  | k :: path, change, members =>
    match members.lookup k with
    | none => do return members.add k (.table .implied (← descend? path change []))
    | some (.table .inline _) => none
    | some (.table origin inner) => do
      return members.replace k (.table origin (← descend? path change inner))
    | some (.array true elements) =>
      match elements.getLast? with
      | some (.table origin inner) => do
        return members.replace k
          (.array true (elements.dropLast ++ [.table origin (← descend? path change inner)]))
      | _ => none
    | some _ => none

def openTable? (key : Key) (members : Members) : Option Members :=
  match members.lookup key with
  | none => some (members.add key (.table .header []))
  | some (.table .implied inner) => some (members.replace key (.table .header inner))
  | some _ => none

def openElement? (key : Key) (members : Members) : Option Members :=
  match members.lookup key with
  | none => some (members.add key (.array true [.table .header []]))
  | some (.array true elements) =>
    some (members.replace key (.array true (elements ++ [.table .header []])))
  | some _ => none

end Members

namespace Value

def natural? : Value → Option Nat
  | .integer i => if 0 ≤ i then some i.toNat else none
  | _ => none

def elements? : Value → Option (List Value)
  | .array _ elements => some elements
  | _ => none

def record? (keys : List Key) : Value → Option (List (Option Value))
  | .table _ members => some (keys.map fun key => members.lookup key)
  | .array _ elements => some (keys.mapIdx fun i _ => elements[i]?)
  | .dateTime _ => some (keys.map fun _ => none)
  | _ => none

def naturals? (keys : List Key) (v : Value) : Option (List (Option Nat)) := do
  (← v.record? keys).mapM fun field => field.mapM natural?

end Value

end Navigation.Toml
