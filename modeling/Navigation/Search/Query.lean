import Navigation.Grid.Map

namespace Navigation.Search

inductive Heuristic where
  | manhattan
  | euclidean
  | diagonal
  deriving DecidableEq, Repr

def sqrtTwo : Float := 1.4142135623730951

def hypotenuse (dx dy : Float) : Float := (dx * dx + dy * dy).sqrt

namespace Heuristic

def name : Heuristic → String
  | .manhattan => "manhattan"
  | .euclidean => "euclidean"
  | .diagonal => "diagonal"

def ofName? (s : String) : Option Heuristic :=
  [manhattan, euclidean, diagonal].find? fun h => h.name == s

def estimate (h : Heuristic) (hypot : Float → Float → Float) (p q : Point) : Float :=
  let dx := Float.ofNat (Point.apart p.x q.x)
  let dy := Float.ofNat (Point.apart p.y q.y)
  match h with
  | .manhattan => dx + dy
  | .euclidean => hypot dx dy
  | .diagonal => if dx < dy then dy + (sqrtTwo - 1.0) * dx else dx + (sqrtTwo - 1.0) * dy

end Heuristic

structure Query where
  grid : Grid
  start : Point := ⟨0, 0⟩
  goal : Point := ⟨0, 0⟩
  heuristic : Heuristic := .euclidean
  weight : Float := 1.0
  diagonal : Bool := true
  hypot : Float → Float → Float := hypotenuse

namespace Query

def setWeight (q : Query) (weight : Float) : Query :=
  { q with weight := if 0.0 < weight then weight else 0.0 }

def estimate (q : Query) (p : Point) : Float := q.weight * q.heuristic.estimate q.hypot p q.goal

end Query

def length (path : List Point) (hypot : Float → Float → Float := hypotenuse) : Float :=
  (path.zip path.tail).foldl (fun sum (p, q) =>
    sum + hypot (Float.ofNat (Point.apart p.x q.x)) (Float.ofNat (Point.apart p.y q.y))) (-0.0)

end Navigation.Search
