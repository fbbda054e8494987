import Navigation.Plan
import Navigation.Priority
import Navigation.Search.Query
import Navigation.Sorted

namespace Navigation.Search

variable {width height : Nat}

structure Node (width height : Nat) where
  total : Priority
  cost : Priority
  cell : Cell width height

/-- The lowest total first, of equal ones the costliest, then by point. -/
instance : Ord (Node width height) where
  compare a b :=
    ((compare a.total b.total).then (compare b.cost a.cost)).then
      (compare a.cell.toPoint b.cell.toPoint)

def Node.of (cost estimate : Float) (cell : Cell width height) : Node width height :=
  ⟨.ofFloat (cost + estimate), .ofFloat cost, cell⟩

structure Progress (width height : Nat) where
  opened : List (Node width height)
  closed : Table height width Bool
  costs : Table height width (Option Float)
  parents : Table height width (Option (Cell width height))
  explored : Nat

def moves (blocked : Table height width Bool) (diagonal : Bool) (c : Cell width height) :
    List (Cell width height × Float) :=
  let straight := (c.neighbors.filter fun n => !blocked.lookup n).map fun n => (n, 1.0)
  let clear (n : Cell width height) : Bool :=
    !blocked.lookup n && !blocked.lookup ⟨⟨n.x, c.y⟩, n.inside.1, c.inside.2⟩ &&
      !blocked.lookup ⟨⟨c.x, n.y⟩, c.inside.1, n.inside.2⟩
  let slanted := ((c.toPoint.diagonals width height).filter clear).map fun n => (n, sqrtTwo)
  if diagonal then straight ++ slanted else straight

namespace Progress

def relax (estimate : Point → Float) (node : Node width height) (p : Progress width height)
    (move : Cell width height × Float) : Progress width height :=
  let (next, step) := move
  let cost := node.cost.toFloat + step
  let better := match p.costs.lookup next with
    | some known => cost < known
    | none => true
  if !p.closed.lookup next && better then
    { p with
      costs := p.costs.put next (some cost)
      parents := p.parents.put next (some node.cell)
      opened := Sorted.insert (Node.of cost (estimate next.toPoint) next) p.opened }
  else p

def trail (parents : Table height width (Option (Cell width height))) :
    Nat → Cell width height → List Point → List Point
  | 0, c, path => c.toPoint :: path
  | steps + 1, c, path => match parents.lookup c with
    | some parent => trail parents steps parent (c.toPoint :: path)
    | none => c.toPoint :: path

def run (moves : Cell width height → List (Cell width height × Float)) (estimate : Point → Float)
    (goal : Cell width height) : Nat → Progress width height → Plan
  | 0, p => .failed p.explored
  | rounds + 1, p => match p.opened.dropWhile fun node => p.closed.lookup node.cell with
    | [] => .failed p.explored
    | node :: rest =>
      let p := { p with
        opened := rest
        closed := p.closed.put node.cell true
        explored := p.explored + 1 }
      if node.cell = goal then
        .found (trail p.parents (width * height) goal []) node.cost.toFloat p.explored
      else
        run moves estimate goal rounds ((moves node.cell).foldl (relax estimate node) p)

def start (estimate : Point → Float) (c : Cell width height) : Progress width height where
  opened := [⟨.ofFloat (estimate c.toPoint), .ofFloat 0.0, c⟩]
  closed := Table.uniform false
  costs := (Table.uniform none).put c (some 0.0)
  parents := Table.uniform none
  explored := 0

end Progress

namespace Query

def freeCell? (q : Query) (p : Point) : Option (Cell q.grid.width q.grid.height) :=
  (q.grid.cell? p).filter fun c => !q.grid.blocked.lookup c

def plan (q : Query) : Plan :=
  match q.freeCell? q.start, q.freeCell? q.goal with
  | some start, some goal =>
    Progress.run (moves q.grid.blocked q.diagonal) q.estimate goal (q.grid.width * q.grid.height)
      (Progress.start q.estimate start)
  | _, _ => .failed 0

end Query

end Navigation.Search
