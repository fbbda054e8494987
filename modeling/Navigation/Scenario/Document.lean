import Navigation.Grid.Cell
import Navigation.Limits
import Navigation.Toml.Codec

/-! Planner limits and scenarios as TOML documents. -/

namespace Navigation

inductive ConfigError where
  | unreadable
  | limits (error : LimitsError)
  | emptyGrid (width height : Nat)
  deriving DecidableEq, Repr

def ConfigError.message : ConfigError → String
  | .unreadable => ""
  | .limits error => error.message
  | .emptyGrid width height => s!"scenario grid must be non-empty, got {width}x{height}"

structure Change where
  added : List Point
  removed : List Point
  moveTo : Option Point
  deriving DecidableEq, Repr

structure Scenario where
  width : Nat
  height : Nat
  start : Point
  goal : Point
  obstacles : List Point
  changes : List Change
  limits : Limits
  deriving DecidableEq, Repr

namespace Limits

def searchKey : Toml.Key := "search_iteration_factor".toList

def pathKey : Toml.Key := "path_step_factor".toList

def entries (l : Limits) : List (Toml.Key × Nat) :=
  [(searchKey, l.searchFactor), (pathKey, l.pathFactor)]

def ofFields? : List (Option Nat) → Option Limits
  | [search, path] => some ⟨search.getD strict.searchFactor, path.getD strict.pathFactor⟩
  | _ => none

end Limits

namespace Toml.Value

def point? : Value → Option Point
  | .array _ (x :: y :: _) => do return ⟨← x.natural?, ← y.natural?⟩
  | _ => none

def points? (v : Value) : Option (List Point) := do (← v.elements?).mapM point?

def optional {α : Type} (read : Value → Option α) (missing : α) : Option Value → Option α
  | some v => read v
  | none => some missing

def limits? (v : Value) : Option Limits := do
  Limits.ofFields? (← v.naturals? [Limits.searchKey, Limits.pathKey])

def change? (v : Value) : Option Change := do
  match ← v.record? (["added", "removed", "move_to"].map String.toList) with
  | [added, removed, moveTo] =>
    return ⟨← optional points? [] added, ← optional points? [] removed, ← moveTo.mapM point?⟩
  | _ => none

def scenario? (v : Value) : Option Scenario := do
  let keys := ["width", "height", "start", "goal", "obstacles", "replans", "planner"]
  match ← v.record? (keys.map String.toList) with
  | [some width, some height, some start, some goal, obstacles, changes, limits] =>
    let changes? (v : Value) : Option (List Change) := do (← v.elements?).mapM change?
    return {
      width := ← width.natural?
      height := ← height.natural?
      start := ← start.point?
      goal := ← goal.point?
      obstacles := ← optional points? [] obstacles
      changes := ← optional changes? [] changes
      limits := ← optional limits? default limits }
  | _ => none

end Toml.Value

namespace Limits

def ofDocument (text : String) (codec : Toml.Codec := .standard) : Except ConfigError Limits :=
  match (codec.read [searchKey, pathKey] text.toList).bind ofFields? with
  | some l => do
    l.validate.mapError .limits
    return l
  | none => .error .unreadable

def document? (l : Limits) (codec : Toml.Codec := .standard) : Option String :=
  (codec.write l.entries).map String.ofList

end Limits

namespace Scenario

def ofDocument (text : String) : Except ConfigError Scenario := do
  match (Toml.document? text.toList).bind fun members => Toml.Value.scenario? (.table .header members) with
  | some s => do
    s.limits.validate.mapError .limits
    if s.width = 0 ∨ s.height = 0 then throw (.emptyGrid s.width s.height)
    return s
  | none => .error .unreadable

end Scenario

end Navigation
