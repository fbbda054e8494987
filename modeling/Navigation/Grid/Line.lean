import Navigation.Grid.Cell

namespace Navigation

namespace Line

structure Extent where
  dx : Int
  dy : Int
  sx : Int
  sy : Int

structure Pen where
  x : Int
  y : Int
  error : Int

namespace Pen

def move (e : Extent) (p : Pen) : Pen :=
  let twice := 2 * p.error
  let p := if -e.dy < twice then { p with error := p.error - e.dy, x := p.x + e.sx } else p
  if twice < e.dx then { p with error := p.error + e.dx, y := p.y + e.sy } else p

def trace (e : Extent) (x1 y1 : Int) : Nat → Pen → List Pen
  | 0, p => [p]
  | steps + 1, p =>
    if p.x = x1 ∧ p.y = y1 then [p] else p :: trace e x1 y1 steps (p.move e)

def point (p : Pen) : Point := ⟨Word.ofSigned p.x, Word.ofSigned p.y⟩

end Pen

def pointBytes : Nat := 16

def span (a b : Int) : Except Overflow Int := do
  let d ← Word.signed .subtraction (b - a)
  Word.signed .negation d.natAbs

end Line

open Line in
def line (a b : Point) : Except Overflow (List Point) := do
  let (x0, y0) := (Word.toSigned a.x, Word.toSigned a.y)
  let (x1, y1) := (Word.toSigned b.x, Word.toSigned b.y)
  let dx ← span x0 x1
  let dy ← span y0 y1
  let count ← Word.signed .addition (max dx dy + 1)
  Word.room pointBytes count.toNat
  let extent : Extent := ⟨dx, dy, if x0 < x1 then 1 else -1, if y0 < y1 then 1 else -1⟩
  return (Pen.trace extent x1 y1 (max dx dy).toNat ⟨x0, y0, dx - dy⟩).map Pen.point

end Navigation
