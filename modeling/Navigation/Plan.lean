import Navigation.Grid.Cell

/-! What a planning query answers: a route if there is one, and how many cells the search has looked at. -/

namespace Navigation

structure Route where
  cells : List Point
  cost : Float

structure Plan where
  route : Option Route
  explored : Nat

namespace Plan

def found (cells : List Point) (cost : Float) (explored : Nat) : Plan :=
  ⟨some ⟨cells, cost⟩, explored⟩

def failed (explored : Nat) : Plan := ⟨none, explored⟩

def infinity : Float := 1.0 / 0.0

def success (p : Plan) : Bool := p.route.isSome

def path (p : Plan) : List Point := (p.route.map Route.cells).getD []

def cost (p : Plan) : Float := (p.route.map Route.cost).getD infinity

end Plan

end Navigation
