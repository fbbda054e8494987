import Navigation.Grid.Cell
import Navigation.Priority
import Navigation.Sorted

namespace Navigation.Replanning

structure Key where
  first : Priority
  second : Priority
  deriving DecidableEq, Repr

instance : Ord Key where
  compare a b := (compare a.first b.first).then (compare a.second b.second)

variable {width height : Nat}

structure Entry (width height : Nat) where
  key : Key
  cell : Cell width height
  deriving DecidableEq

instance : Ord (Entry width height) where
  compare a b := (compare a.key b.key).then (compare a.cell.toPoint b.cell.toPoint)

structure Queue (width height : Nat) where
  entries : List (Entry width height)
  keys : Table height width (Option Key)

namespace Queue

def empty : Queue width height := ⟨[], Table.uniform none⟩

def size (q : Queue width height) : Nat := q.entries.length

def insert (q : Queue width height) (c : Cell width height) (key : Key) : Queue width height :=
  ⟨Sorted.insert ⟨key, c⟩ q.entries, q.keys.put c (some key)⟩

def remove (q : Queue width height) (c : Cell width height) : Queue width height :=
  match q.keys.lookup c with
  | some key => ⟨q.entries.erase ⟨key, c⟩, q.keys.put c none⟩
  | none => q

def pop? (q : Queue width height) : Option (Entry width height × Queue width height) :=
  match q.entries with
  | [] => none
  | e :: rest => some (e, ⟨rest, q.keys.put e.cell none⟩)

end Queue

end Navigation.Replanning
