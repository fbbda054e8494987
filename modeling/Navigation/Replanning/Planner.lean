import Navigation.Limits
import Navigation.Plan
import Navigation.Replanning.Queue

namespace Navigation.Replanning

structure Costs where
  g : Float
  rhs : Float

def Costs.unseen : Costs := ⟨Plan.infinity, Plan.infinity⟩

def Costs.consistent (c : Costs) : Bool := c.g == c.rhs

def Costs.least (c : Costs) : Float := if c.rhs < c.g then c.rhs else c.g

structure Planner (width height : Nat) where
  start : Cell width height
  goal : Cell width height
  costs : Table height width Costs
  queue : Queue width height
  blocked : Table height width Bool
  km : Float
  limits : Limits

inductive Role where
  | start
  | goal
  | obstacle
  deriving DecidableEq, Repr

def Role.name : Role → String
  | .start => "start"
  | .goal => "goal"
  | .obstacle => "obstacle"

inductive Error where
  | emptyGrid (width height : Nat)
  | outOfBounds (role : Role) (point : Point) (width height : Nat)
  | invalidLimits (error : LimitsError)
  | noCell (point : Point) (width height : Nat)
  | overflow (reason : Overflow)
  deriving DecidableEq, Repr

namespace Planner

variable {width height : Nat}

def costAt (s : Planner width height) (c : Cell width height) : Costs := s.costs.lookup c

def isFree (s : Planner width height) (c : Cell width height) : Bool := !s.blocked.lookup c

def distance (c d : Cell width height) : Float := Float.ofNat (c.toPoint.manhattan d.toPoint)

def keyOf (s : Planner width height) (c : Cell width height) : Key :=
  let least := (s.costAt c).least
  ⟨.ofFloat (least + distance c s.start + s.km), .ofFloat least⟩

def stepCost : Float := 1.0

def throughNeighbors (s : Planner width height) (c : Cell width height) : Float :=
  (c.neighbors.filter s.isFree).foldl (fun least n =>
    let cost := (s.costAt n).g + stepCost
    if cost < least then cost else least) Plan.infinity

/-- What `rhs` has to be: the goal keeps its own, and a blocked cell leads nowhere. -/
def lookahead (s : Planner width height) (c : Cell width height) : Float :=
  if c = s.goal then (s.costAt c).rhs
  else if s.isFree c then s.throughNeighbors c
  else Plan.infinity

def setG (s : Planner width height) (c : Cell width height) (g : Float) : Planner width height :=
  { s with costs := s.costs.put c { s.costAt c with g } }

def setRhs (s : Planner width height) (c : Cell width height) (rhs : Float) :
    Planner width height :=
  { s with costs := s.costs.put c { s.costAt c with rhs } }

def enqueue (s : Planner width height) (c : Cell width height) : Planner width height :=
  if (s.costAt c).consistent then s
  else { s with queue := s.queue.insert c (s.keyOf c) }

def dequeue (s : Planner width height) (c : Cell width height) : Planner width height :=
  { s with queue := s.queue.remove c }

def update (s : Planner width height) (c : Cell width height) : Planner width height :=
  ((s.setRhs c (s.lookahead c)).dequeue c).enqueue c

def updateNeighbors (s : Planner width height) (c : Cell width height) : Planner width height :=
  c.neighbors.foldl update s

def cell (role : Role) (p : Point) : Except Error (Cell width height) :=
  match Cell.ofPoint? width height p with
  | some c => .ok c
  | none => .error (.outOfBounds role p width height)

def asked (p : Point) : Except Error (Cell width height) :=
  match Cell.ofPoint? width height p with
  | some c => .ok c
  | none => .error (.noCell p width height)

def cellBytes : Nat := 16

def new (width height : Nat) (start goal : Point) (obstacles : List Point)
    (limits : Limits := default) : Except Error (Planner width height) := do
  if width = 0 ∨ height = 0 then throw (.emptyGrid width height)
  limits.validate.mapError .invalidLimits
  let _ ← (Word.area cellBytes width height).mapError Error.overflow
  let start ← cell .start start
  let goal ← cell .goal goal
  let obstacles ← obstacles.mapM (cell .obstacle)
  let s : Planner width height := {
    start
    goal
    costs := (Table.uniform Costs.unseen).put goal { Costs.unseen with rhs := 0.0 }
    queue := Queue.empty
    blocked := obstacles.foldl (fun t c => t.put c true) (Table.uniform false)
    km := 0.0
    limits }
  return s.enqueue goal

def blockedPoints (s : Planner width height) : List Point :=
  let cells : List (Cell width height) :=
    (List.finRange width).flatMap fun (x : Fin width) =>
      (List.finRange height).map fun (y : Fin height) => ⟨⟨x, y⟩, x.isLt, y.isLt⟩
  (cells.filter s.blocked.lookup).map Cell.toPoint

def isBlocked (s : Planner width height) (p : Point) : Bool :=
  match Cell.ofPoint? width height p with
  | some c => s.blocked.lookup c
  | none => false

end Planner

end Navigation.Replanning
