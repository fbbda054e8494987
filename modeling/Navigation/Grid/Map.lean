import Navigation.Grid.Line

namespace Navigation

structure Grid where
  width : Nat
  height : Nat
  blocked : Table height width Bool
  deriving DecidableEq

namespace Grid

def cellBytes : Nat := 1

def new (width height : Nat) : Except Overflow Grid := do
  let _ ← Word.area cellBytes width height
  return ⟨width, height, Table.uniform false⟩

def cell? (g : Grid) (p : Point) : Option (Cell g.width g.height) :=
  Cell.ofPoint? g.width g.height p

def mark (g : Grid) (blocked : Bool) (p : Point) : Grid :=
  match g.cell? p with
  | some c => { g with blocked := g.blocked.put c blocked }
  | none => g

def block (g : Grid) (p : Point) : Grid := g.mark true p

def free (g : Grid) (p : Point) : Grid := g.mark false p

def clear (g : Grid) : Grid := { g with blocked := Table.uniform false }

def isBlocked (g : Grid) (p : Point) : Bool :=
  match g.cell? p with
  | some c => g.blocked.lookup c
  | none => true

def blockedCells (g : Grid) : List Point :=
  ((Cell.all g.width g.height).filter g.blocked.lookup).map Cell.toPoint

def ofObstacles (width height : Nat) (obstacles : List Point) : Except Overflow Grid := do
  let g ← new width height
  return obstacles.foldl block g

def ofRows (rows : List (List Bool)) : Grid :=
  let width := (rows.head?.map List.length).getD 0
  ⟨width, rows.length, Table.ofFn fun y x => (rows[y][x.val]?).getD false⟩

def blockLine (g : Grid) (a b : Point) : Except Overflow Grid := do
  return (← line a b).foldl block g

end Grid

end Navigation
