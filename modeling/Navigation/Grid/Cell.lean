import Navigation.Table
import Navigation.Word

/-! Points of the lattice and the cells of a bounded grid. -/

namespace Navigation

structure Point where
  x : Nat
  y : Nat
  deriving DecidableEq, Repr

instance : ToString Point where
  toString p := s!"({p.x}, {p.y})"

namespace Point

protected def compare (p q : Point) : Ordering := (compare p.x q.x).then (compare p.y q.y)

instance : Ord Point := ⟨Point.compare⟩

def apart (a b : Nat) : Nat := (a - b) + (b - a)

def manhattan (p q : Point) : Nat := apart p.x q.x + apart p.y q.y

def manhattan? (p q : Point) : Except Overflow Nat := Word.add (apart p.x q.x) (apart p.y q.y)

def Inside (p : Point) (width height : Nat) : Prop := p.x < width ∧ p.y < height

instance (p : Point) (width height : Nat) : Decidable (p.Inside width height) :=
  inferInstanceAs (Decidable (_ ∧ _))

def shift? (p : Point) (offset : Int × Int) : Option Point :=
  let x := p.x + offset.1
  let y := p.y + offset.2
  if 0 ≤ x ∧ 0 ≤ y then some ⟨x.toNat, y.toNat⟩ else none

end Point

structure Cell (width height : Nat) extends Point where
  inside : toPoint.Inside width height
  deriving DecidableEq

namespace Cell

variable {width height : Nat}

def ofPoint? (width height : Nat) (p : Point) : Option (Cell width height) :=
  if h : p.Inside width height then some ⟨p, h⟩ else none

def row (c : Cell width height) : Fin height := ⟨c.y, c.inside.2⟩

def col (c : Cell width height) : Fin width := ⟨c.x, c.inside.1⟩

def all (width height : Nat) : List (Cell width height) :=
  (List.finRange height).flatMap fun (y : Fin height) =>
    (List.finRange width).map fun (x : Fin width) => ⟨⟨x, y⟩, x.isLt, y.isLt⟩

theorem mem_all (c : Cell width height) : c ∈ all width height :=
  List.mem_flatMap.2 ⟨c.row, List.mem_finRange _, List.mem_map.2 ⟨c.col, List.mem_finRange _, rfl⟩⟩

end Cell

namespace Point

def straightOffsets : List (Int × Int) := [(0, -1), (0, 1), (-1, 0), (1, 0)]

def diagonalOffsets : List (Int × Int) := [(-1, -1), (1, -1), (-1, 1), (1, 1)]

def around (width height : Nat) (p : Point) (offsets : List (Int × Int)) :
    List (Cell width height) :=
  offsets.filterMap fun offset => (p.shift? offset).bind (Cell.ofPoint? width height)

def neighbors4 (width height : Nat) (p : Point) : List (Cell width height) :=
  p.around width height straightOffsets

def diagonals (width height : Nat) (p : Point) : List (Cell width height) :=
  p.around width height diagonalOffsets

def neighbors8 (width height : Nat) (p : Point) : List (Cell width height) :=
  p.neighbors4 width height ++ p.diagonals width height

end Point

namespace Cell

variable {width height : Nat}

def neighbors (c : Cell width height) : List (Cell width height) :=
  c.toPoint.neighbors4 width height

end Cell

namespace Table

variable {width height : Nat} {α : Type}

def lookup (t : Table height width α) (c : Cell width height) : α := t.get c.row c.col

def put (t : Table height width α) (c : Cell width height) (x : α) : Table height width α :=
  t.set c.row c.col x

theorem lookup_put (t : Table height width α) (c d : Cell width height) (x : α) :
    (t.put c x).lookup d = if d = c then x else t.lookup d := by
  have h : (d.row = c.row ∧ d.col = c.col) ↔ d = c := by
    obtain ⟨⟨dx, dy⟩, hd⟩ := d
    obtain ⟨⟨cx, cy⟩, hc⟩ := c
    simp [Cell.row, Cell.col, and_comm]
  simp [Table.lookup, put, get_set, h]

def uniform (x : α) : Table height width α := ⟨Vector.replicate _ x⟩

@[simp] theorem lookup_uniform (x : α) (c : Cell width height) :
    (uniform x : Table height width α).lookup c = x := by
  simp [Table.lookup, get, uniform]

end Table

end Navigation
