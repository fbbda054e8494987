import Navigation.Replanning.Planner

namespace Navigation.Replanning.Planner

variable {width height : Nat}

/-- Settles a cell that was just taken from the queue: too high a cost falls to the lookahead, too
low a one is given up. Its neighbours see the change. -/
def settle (s : Planner width height) (c : Cell width height) : Planner width height :=
  let cost := s.costAt c
  let s := if cost.rhs < cost.g then s.setG c cost.rhs else (s.setG c Plan.infinity).update c
  s.updateNeighbors c

def finished (s : Planner width height) (key : Key) : Bool :=
  compare key (s.keyOf s.start) ≠ .lt && (s.costAt s.start).consistent

def searchFrom : Nat → Nat → Planner width height → Planner width height × Nat
  | 0, explored, s => (s, explored)
  | fuel + 1, explored, s => match s.queue.pop? with
    | none => (s, explored)
    | some (e, queue) =>
      if s.finished e.key then (s, explored)
      else searchFrom fuel (explored + 1) ({ s with queue }.settle e.cell)

def search (s : Planner width height) : Planner width height × Nat :=
  searchFrom (s.limits.searchCap width height) 0 s

def bestNeighbor (s : Planner width height) (c : Cell width height) : Option (Cell width height) :=
  (c.neighbors.filter s.isFree).foldl (fun best n => match best with
    | none => some n
    | some b => if (s.costAt n).g < (s.costAt b).g then some n else some b) none

def descend (s : Planner width height) : Nat → Cell width height → Option (List Point)
  | 0, c => if c = s.goal then some [c.toPoint] else none
  | steps + 1, c =>
    if c = s.goal then some [c.toPoint]
    else match s.bestNeighbor c with
      | none => none
      | some n =>
        if (s.costAt n).g < (s.costAt c).g then (descend s steps n).map (c.toPoint :: ·) else none

def extract (s : Planner width height) : Option Route :=
  let cost := (s.costAt s.start).g
  if s.isFree s.start && s.isFree s.goal && cost != Plan.infinity then
    (s.descend (s.limits.pathCap width height) s.start).map fun path => ⟨path, cost⟩
  else none

def plan (s : Planner width height) : Planner width height × Plan :=
  let (s, explored) := s.search
  (s, ⟨s.extract, explored⟩)

def move (s : Planner width height) (start : Cell width height) : Planner width height :=
  { s with km := s.km + distance s.start start, start }

def change (blocked : Bool) (s : Planner width height) (c : Cell width height) :
    Planner width height :=
  let s := { s with blocked := s.blocked.put c blocked }
  (s.update c).updateNeighbors c

/-- Plans again after the robot has moved, cells were added to the obstacles, and then others
removed. Every point is checked before anything changes. -/
def replan (s : Planner width height) (added removed : List Point) (moveTo : Option Point) :
    Except Error (Planner width height × Plan) := do
  let start ← moveTo.mapM (cell .start)
  let added ← added.mapM (cell .obstacle)
  let removed ← removed.mapM (cell .obstacle)
  let s := match start with
    | some c => s.move c
    | none => s
  return (removed.foldl (change false) (added.foldl (change true) s)).plan

end Navigation.Replanning.Planner
