import Navigation.Json.Value
import Navigation.Replanning.Search
import Navigation.Scenario.Document

/-! Running a scenario: a first plan, then a plan after every change, and the report of all of them. -/

namespace Navigation

structure Report where
  width : Nat
  height : Nat
  initial : Plan
  replans : List Plan

inductive RunError where
  | planner (error : Replanning.Error)
  | change (number : Nat) (error : Replanning.Error)
  deriving DecidableEq, Repr

namespace Scenario

def replans {width height : Nat} (s : Replanning.Planner width height) (number : Nat) :
    List Change → Except RunError (List Plan)
  | [] => .ok []
  | c :: changes => do
    let (s, plan) ← (s.replan c.added c.removed c.moveTo).mapError (.change number)
    return plan :: (← replans s (number + 1) changes)

def run (s : Scenario) : Except RunError Report := do
  let planner ← (Replanning.Planner.new s.width s.height s.start s.goal s.obstacles
    s.limits).mapError .planner
  let (planner, initial) := planner.plan
  return ⟨s.width, s.height, initial, ← replans planner 1 s.changes⟩

end Scenario

open Json (Value)

def Point.json (p : Point) : Value := .object [("x", .natural p.x), ("y", .natural p.y)]

def Plan.json (p : Plan) : Value :=
  .object [("path", .array (p.path.map Point.json)), ("cost", .double p.cost),
    ("success", .boolean p.success), ("nodes_explored", .natural p.explored)]

def Report.json (r : Report) : Value :=
  .object [("width", .natural r.width), ("height", .natural r.height), ("initial", r.initial.json),
    ("replans", .array (r.replans.map Plan.json))]

end Navigation
