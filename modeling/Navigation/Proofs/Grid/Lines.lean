import Mathlib.Tactic.Linarith
import Navigation.Grid.Line

namespace Navigation

namespace Line

open Point (apart)

def moves (a b : Point) : ℕ := max (apart a.x b.x) (apart a.y b.y)

/-- How far a cell is from the segment between two points, as a multiple of the longer of its distances. -/
def stray (a b c : Point) : ℕ := apart (apart a.x b.x * apart a.y c.y) (apart a.y b.y * apart a.x c.x)

def Advances (goal x y : ℕ) : Prop := apart x y = 1 ∧ apart y goal + 1 = apart x goal

def Strides (goal : Point) (along across : Point → ℕ) (p q : Point) : Prop :=
  Advances (along goal) (along p) (along q) ∧
    (across q = across p ∨ Advances (across goal) (across p) (across q))

structure Trail (a b start : Point) (n : ℕ) (cells : List Point) : Prop where
  length_eq : cells.length = n + 1
  head_eq : cells.head? = some start
  last_eq : cells.getLast? = some b
  wide : apart a.y b.y ≤ apart a.x b.x → cells.IsChain (Strides b Point.x Point.y)
  tall : apart a.x b.x ≤ apart a.y b.y → cells.IsChain (Strides b Point.y Point.x)
  close : ∀ c ∈ cells, 2 * stray a b c ≤ moves a b

namespace Pen

def moveX? (e : Extent) (p : Pen) : Except Overflow Pen := do
  let error ← Word.signed .subtraction (p.error - e.dy)
  let x ← Word.signed .addition (p.x + e.sx)
  return { p with error, x }

def moveY? (e : Extent) (p : Pen) : Except Overflow Pen := do
  let error ← Word.signed .addition (p.error + e.dx)
  let y ← Word.signed .addition (p.y + e.sy)
  return { p with error, y }

def move? (e : Extent) (p : Pen) : Except Overflow Pen := do
  let twice ← Word.signed .multiplication (2 * p.error)
  let low ← Word.signed .negation (-e.dy)
  let p ← (if low < twice then p.moveX? e else pure p)
  if twice < e.dx then p.moveY? e else pure p

inductive Draws (e : Extent) (x1 y1 : ℤ) : Pen → List Point → Prop
  | stop {p : Pen} (h : p.x = x1 ∧ p.y = y1) : Draws e x1 y1 p [p.point]
  | step {p q : Pen} {cells : List Point} (h : ¬(p.x = x1 ∧ p.y = y1)) (hmove : p.move? e = .ok q)
    (hrest : Draws e x1 y1 q cells) : Draws e x1 y1 p (p.point :: cells)

end Pen

def Drawn (a b : Point) (cells : List Point) : Prop :=
  let (x0, y0) := (Word.toSigned a.x, Word.toSigned a.y)
  let (x1, y1) := (Word.toSigned b.x, Word.toSigned b.y)
  ∃ dx dy error : ℤ, span x0 x1 = .ok dx ∧ span y0 y1 = .ok dy ∧
    Word.signed .subtraction (dx - dy) = .ok error ∧
    Pen.Draws ⟨dx, dy, if x0 < x1 then 1 else -1, if y0 < y1 then 1 else -1⟩ x1 y1 ⟨x0, y0, error⟩ cells

section Axis

variable {x0 x1 u : ℕ}

def toward (x0 x1 u : ℕ) : ℕ := if x0 < x1 then x0 + u else x0 - u

lemma apart_toward (h : u ≤ apart x0 x1) : apart x0 (toward x0 x1 u) = u := by
  simp only [apart, toward] at *
  split <;> omega

lemma apart_toward_end (h : u ≤ apart x0 x1) : apart (toward x0 x1 u) x1 + u = apart x0 x1 := by
  simp only [apart, toward] at *
  split <;> omega

lemma advances_toward (h : u + 1 ≤ apart x0 x1) : Advances x1 (toward x0 x1 u) (toward x0 x1 (u + 1)) := by
  have h0 := apart_toward_end (Nat.le_of_succ_le h)
  have h1 := apart_toward_end h
  refine ⟨?_, by omega⟩
  simp only [apart, toward] at *
  split <;> omega

lemma stays_or_advances {u' : ℕ} (h : u' = u ∨ u' = u + 1) (hle : u' ≤ apart x0 x1) :
    toward x0 x1 u' = toward x0 x1 u ∨ Advances x1 (toward x0 x1 u) (toward x0 x1 u') := by
  rcases h with rfl | rfl
  · exact .inl rfl
  · exact .inr (advances_toward hle)

lemma toward_add_one (h : u + 1 ≤ apart x0 x1) :
    (toward x0 x1 u : ℤ) + (if (x0 : ℤ) < x1 then 1 else -1) = toward x0 x1 (u + 1) := by
  simp only [apart, toward] at *
  split <;> split <;> omega

lemma toward_le_max (h : u ≤ apart x0 x1) : toward x0 x1 u ≤ max x0 x1 := by
  simp only [apart, toward] at *
  split <;> omega

lemma toward_eq_end (h : u ≤ apart x0 x1) : toward x0 x1 u = x1 ↔ u = apart x0 x1 := by
  simp only [apart, toward] at *
  split <;> omega

end Axis

section Near

variable {dx dy i u v : ℕ}

/-- After `i` moves the shorter axis is at most half a cell ahead or behind. -/
structure Near (dx dy i u v : ℕ) : Prop where
  u_le : u ≤ dx
  v_le : v ≤ dy
  wide : dy ≤ dx → u = i
  tall : dx ≤ dy → v = i
  close : 2 * apart (dx * v) (dy * u) ≤ max dx dy

lemma le_of_mul_le {m s t : ℕ} (hm : 0 < m) (h : 2 * (m * s) ≤ 2 * (m * t) + m) : s ≤ t := by
  by_contra hlt
  have hmul := Nat.mul_le_mul_left m (Nat.succ_le_of_lt (not_le.mp hlt))
  rw [Nat.mul_add_one] at hmul
  omega

lemma near_zero : Near dx dy 0 0 0 := ⟨Nat.zero_le _, Nat.zero_le _, fun _ => rfl, fun _ => rfl, by simp [apart]⟩

lemma Near.symm (h : Near dx dy i u v) : Near dy dx i v u where
  u_le := h.v_le
  v_le := h.u_le
  wide := h.tall
  tall := h.wide
  close := by
    have hclose := h.close
    simp only [apart] at *
    omega

lemma Near.at_end (h : Near dx dy i u v) (hi : i = max dx dy) (hle : dy ≤ dx) : u = dx ∧ v = dy := by
  obtain rfl : u = dx := (h.wide hle).trans (hi.trans (max_eq_left hle))
  have hclose := h.close
  rcases Nat.eq_zero_or_pos u with rfl | hpos
  · exact ⟨rfl, by have := h.v_le; omega⟩
  · rw [apart, Nat.mul_comm dy u] at hclose
    exact ⟨rfl, h.v_le.antisymm (le_of_mul_le hpos (by omega))⟩

lemma Near.end_iff (h : Near dx dy i u v) : u = dx ∧ v = dy ↔ i = max dx dy := by
  constructor
  · rintro ⟨rfl, rfl⟩
    have hwide := h.wide
    have htall := h.tall
    omega
  · intro hi
    rcases le_total dy dx with hle | hle
    · exact h.at_end hi hle
    · exact (h.symm.at_end (hi.trans (max_comm dx dy)) hle).symm

def lead (dx dy u v : ℕ) : ℤ := (dx * v : ℕ) + dx - (dy * u : ℕ) - dy

lemma lead_swap : lead dy dx v u = -lead dx dy u v := by
  simp only [lead]
  omega

lemma Near.moves_tall (h : Near dx dy i u v) (hi : i < max dx dy) (hle : dx ≤ dy) :
    2 * lead dx dy u v < dx := by
  have hclose := h.close
  simp only [apart] at hclose
  simp only [lead]
  rcases hle.lt_or_eq with hlt | rfl
  · omega
  · rw [h.wide le_rfl, h.tall le_rfl]
    omega

lemma Near.moves_wide (h : Near dx dy i u v) (hi : i < max dx dy) (hle : dy ≤ dx) :
    -dy < 2 * lead dx dy u v := by
  have htall := h.symm.moves_tall (hi.trans_eq (max_comm dx dy)) hle
  rw [lead_swap] at htall
  omega

lemma Near.lt_of_tall (h : Near dx dy i u v) (hi : i < max dx dy) (hmove : 2 * lead dx dy u v < dx) : v < dy := by
  rcases le_total dx dy with hle | hle
  · rw [h.tall hle]
    omega
  · -- the longer axis still has a move to make, which bounds how far the other one can be
    have hu : dy * (u + 1) ≤ dy * dx := Nat.mul_le_mul_left dy (by rw [h.wide hle]; omega)
    refine le_of_mul_le (m := dx) (by omega) ?_
    rw [Nat.mul_add_one, Nat.mul_comm dx dy]
    rw [Nat.mul_add_one] at hu
    simp only [lead] at hmove
    omega

lemma Near.lt_of_wide (h : Near dx dy i u v) (hi : i < max dx dy) (hmove : -dy < 2 * lead dx dy u v) : u < dx := by
  refine h.symm.lt_of_tall (hi.trans_eq (max_comm dx dy)) ?_
  rw [lead_swap]
  omega

lemma Near.next (h : Near dx dy i u v) (hi : i < max dx dy) :
    Near dx dy (i + 1) (if -dy < 2 * lead dx dy u v then u + 1 else u)
      (if 2 * lead dx dy u v < dx then v + 1 else v) where
  u_le := by
    split
    · exact h.lt_of_wide hi ‹_›
    · exact h.u_le
  v_le := by
    split
    · exact h.lt_of_tall hi ‹_›
    · exact h.v_le
  wide hle := by rw [if_pos (h.moves_wide hi hle), h.wide hle]
  tall hle := by rw [if_pos (h.moves_tall hi hle), h.tall hle]
  close := by
    have hclose := h.close
    have hwide := h.moves_wide hi
    have htall := h.moves_tall hi
    have hx := Nat.mul_add_one dx v
    have hy := Nat.mul_add_one dy u
    split_ifs <;> simp only [apart, lead] at * <;> omega

end Near

section Drawing

variable {a b : Point} {i n u v : ℕ}

lemma signed_eq {reason : Overflow} {z : ℤ} (h : -Word.half ≤ z ∧ z < Word.half) :
    Word.signed reason z = .ok z := if_pos h

lemma ok_bind {α β : Type} (x : α) (f : α → Except Overflow β) : (Except.ok x >>= f) = f x := rfl

lemma toSigned_eq {n : ℕ} (h : n < Word.half) : Word.toSigned n = n := if_pos h

lemma ofSigned_natCast {n : ℕ} (h : n < Word.half) : Word.ofSigned n = n := by
  have hbound : (n : ℤ) % Word.bound = n := Int.emod_eq_of_lt (Int.natCast_nonneg n) (by
    have : Word.half ≤ Word.bound := by decide
    omega)
  rw [Word.ofSigned, hbound, Int.toNat_natCast]

structure Roomy (a b : Point) : Prop where
  startX : a.x < Word.half
  startY : a.y < Word.half
  endX : b.x < Word.half
  endY : b.y < Word.half
  fits : moves a b + 1 < 2 ^ 59

def extent (a b : Point) : Extent where
  dx := apart a.x b.x
  dy := apart a.y b.y
  sx := if (a.x : ℤ) < b.x then 1 else -1
  sy := if (a.y : ℤ) < b.y then 1 else -1

def cell (a b : Point) (u v : ℕ) : Point := ⟨toward a.x b.x u, toward a.y b.y v⟩

def pen (a b : Point) (u v : ℕ) : Pen :=
  ⟨(cell a b u v).x, (cell a b u v).y, lead (apart a.x b.x) (apart a.y b.y) u v⟩

abbrev On (a b : Point) (i u v : ℕ) : Prop := Near (apart a.x b.x) (apart a.y b.y) i u v

namespace On

lemma point_pen (hr : Roomy a b) (h : On a b i u v) : (pen a b u v).point = cell a b u v := by
  have hx : toward a.x b.x u < Word.half := (toward_le_max h.u_le).trans_lt (max_lt hr.startX hr.endX)
  have hy : toward a.y b.y v < Word.half := (toward_le_max h.v_le).trans_lt (max_lt hr.startY hr.endY)
  exact congrArg₂ Point.mk (ofSigned_natCast hx) (ofSigned_natCast hy)

lemma at_end_iff (h : On a b i u v) : ((pen a b u v).x = b.x ∧ (pen a b u v).y = b.y) ↔ i = moves a b := by
  rw [moves, ← Near.end_iff h, ← toward_eq_end h.u_le, ← toward_eq_end h.v_le]
  exact and_congr Nat.cast_inj Nat.cast_inj

lemma stray_cell (h : On a b i u v) : 2 * stray a b (cell a b u v) ≤ moves a b := by
  have hclose := h.close
  rwa [stray, cell, apart_toward h.u_le, apart_toward h.v_le]

lemma abs_lead_le (hr : Roomy a b) (h : On a b i u v) : |lead (apart a.x b.x) (apart a.y b.y) u v| ≤ 2 ^ 60 := by
  have hclose := h.close
  have hmoves := hr.fits
  rw [abs_le]
  simp only [lead]
  simp only [moves] at hmoves
  rw [apart] at hclose
  omega

end On

lemma lead_add_left {dx dy : ℕ} : lead dx dy (u + 1) v = lead dx dy u v - dy := by
  simp only [lead]
  rw [Nat.mul_add_one]
  omega

lemma lead_add_right {dx dy : ℕ} : lead dx dy u (v + 1) = lead dx dy u v + dx := by
  simp only [lead]
  rw [Nat.mul_add_one]
  omega

lemma pen_add_left (h : u < apart a.x b.x) : pen a b (u + 1) v =
    ⟨(pen a b u v).x + (extent a b).sx, (pen a b u v).y, (pen a b u v).error - (extent a b).dy⟩ :=
  congrArg₂ (Pen.mk · (pen a b u v).y) (toward_add_one h).symm lead_add_left

lemma pen_add_right (h : v < apart a.y b.y) : pen a b u (v + 1) =
    ⟨(pen a b u v).x, (pen a b u v).y + (extent a b).sy, (pen a b u v).error + (extent a b).dx⟩ :=
  congrArg₂ (Pen.mk (pen a b u v).x) (toward_add_one h).symm lead_add_right

lemma Roomy.dx_lt (hr : Roomy a b) : (extent a b).dx < 2 ^ 59 := by
  have hfits := (le_max_left (apart a.x b.x) (apart a.y b.y)).trans_lt (Nat.lt_of_succ_lt hr.fits)
  change ((apart a.x b.x : ℕ) : ℤ) < 2 ^ 59
  exact_mod_cast hfits

lemma Roomy.dy_lt (hr : Roomy a b) : (extent a b).dy < 2 ^ 59 := by
  have hfits := (le_max_right (apart a.x b.x) (apart a.y b.y)).trans_lt (Nat.lt_of_succ_lt hr.fits)
  change ((apart a.y b.y : ℕ) : ℤ) < 2 ^ 59
  exact_mod_cast hfits

lemma half_eq : Word.half = 2 ^ 63 := rfl

lemma moveX?_pen (hr : Roomy a b) (h : u < apart a.x b.x) (hlead : |(pen a b u v).error| ≤ 2 ^ 61) :
    (pen a b u v).moveX? (extent a b) = .ok (pen a b (u + 1) v) := by
  have hx : (pen a b u v).x + (extent a b).sx = toward a.x b.x (u + 1) := toward_add_one h
  have hlt : toward a.x b.x (u + 1) < Word.half := (toward_le_max h).trans_lt (max_lt hr.startX hr.endX)
  have hdy := hr.dy_lt
  have hdy0 : 0 ≤ (extent a b).dy := Int.natCast_nonneg _
  rw [abs_le] at hlead
  rw [half_eq] at hlt
  rw [pen_add_left h, Pen.moveX?, signed_eq (by rw [half_eq]; omega), signed_eq (by rw [half_eq]; omega)]
  rfl

lemma moveY?_pen (hr : Roomy a b) (h : v < apart a.y b.y) (hlead : |(pen a b u v).error| ≤ 2 ^ 61) :
    (pen a b u v).moveY? (extent a b) = .ok (pen a b u (v + 1)) := by
  have hy : (pen a b u v).y + (extent a b).sy = toward a.y b.y (v + 1) := toward_add_one h
  have hlt : toward a.y b.y (v + 1) < Word.half := (toward_le_max h).trans_lt (max_lt hr.startY hr.endY)
  have hdx := hr.dx_lt
  have hdx0 : 0 ≤ (extent a b).dx := Int.natCast_nonneg _
  rw [abs_le] at hlead
  rw [half_eq] at hlt
  rw [pen_add_right h, Pen.moveY?, signed_eq (by rw [half_eq]; omega), signed_eq (by rw [half_eq]; omega)]
  rfl

def nextX (a b : Point) (u v : ℕ) : ℕ := if -(extent a b).dy < 2 * (pen a b u v).error then u + 1 else u

def nextY (a b : Point) (u v : ℕ) : ℕ := if 2 * (pen a b u v).error < (extent a b).dx then v + 1 else v

namespace On

lemma next (h : On a b i u v) (hi : i < moves a b) : On a b (i + 1) (nextX a b u v) (nextY a b u v) :=
  Near.next h hi

lemma move_pen (h : On a b i u v) (hi : i < moves a b) :
    (pen a b u v).move (extent a b) = pen a b (nextX a b u v) (nextY a b u v) := by
  rw [Pen.move, nextX, nextY]
  by_cases hx : -(extent a b).dy < 2 * (pen a b u v).error <;>
    by_cases hy : 2 * (pen a b u v).error < (extent a b).dx <;>
    simp only [hx, hy, if_true, if_false]
  · rw [pen_add_right (h.lt_of_tall hi hy), pen_add_left (h.lt_of_wide hi hx)]
  · rw [pen_add_left (h.lt_of_wide hi hx)]
  · rw [pen_add_right (h.lt_of_tall hi hy)]

lemma move?_pen (hr : Roomy a b) (h : On a b i u v) (hi : i < moves a b) :
    (pen a b u v).move? (extent a b) = .ok (pen a b (nextX a b u v) (nextY a b u v)) := by
  have hlead : |(pen a b u v).error| ≤ 2 ^ 60 := h.abs_lead_le hr
  have hdy := hr.dy_lt
  have hdy0 : 0 ≤ (extent a b).dy := Int.natCast_nonneg _
  have hfirst : (if -(extent a b).dy < 2 * (pen a b u v).error then (pen a b u v).moveX? (extent a b)
      else pure (pen a b u v)) = .ok (pen a b (nextX a b u v) v) := by
    rw [nextX]
    split
    · exact moveX?_pen hr (h.lt_of_wide hi ‹_›) (hlead.trans (by norm_num))
    · rfl
  have herror : |(pen a b (nextX a b u v) v).error| ≤ 2 ^ 61 := by
    rw [nextX]
    split
    · rw [pen_add_left (h.lt_of_wide hi ‹_›)]
      rw [abs_le] at *
      dsimp only
      omega
    · exact hlead.trans (by norm_num)
  rw [abs_le] at hlead
  rw [Pen.move?, signed_eq (by rw [half_eq]; omega), ok_bind, signed_eq (by rw [half_eq]; omega), ok_bind, hfirst,
    ok_bind, nextY]
  split
  · exact moveY?_pen hr (h.lt_of_tall hi ‹_›) herror
  · rfl

lemma strides_wide (h : On a b i u v) (hi : i < moves a b) (hle : apart a.y b.y ≤ apart a.x b.x) :
    Strides b Point.x Point.y (cell a b u v) (cell a b (nextX a b u v) (nextY a b u v)) := by
  have hnext := h.next hi
  have hx : nextX a b u v = u + 1 := by rw [hnext.wide hle, h.wide hle]
  refine ⟨?_, stays_or_advances (ite_eq_or_eq _ _ _).symm hnext.v_le⟩
  rw [hx]
  exact advances_toward (hx ▸ hnext.u_le)

lemma strides_tall (h : On a b i u v) (hi : i < moves a b) (hle : apart a.x b.x ≤ apart a.y b.y) :
    Strides b Point.y Point.x (cell a b u v) (cell a b (nextX a b u v) (nextY a b u v)) := by
  have hnext := h.next hi
  have hy : nextY a b u v = v + 1 := by rw [hnext.tall hle, h.tall hle]
  refine ⟨?_, stays_or_advances (ite_eq_or_eq _ _ _).symm hnext.u_le⟩
  rw [hy]
  exact advances_toward (hy ▸ hnext.v_le)

end On

namespace Trail

lemma stop (h : 2 * stray a b b ≤ moves a b) : Trail a b b 0 [b] where
  length_eq := rfl
  head_eq := rfl
  last_eq := rfl
  wide _ := .singleton b
  tall _ := .singleton b
  close := List.forall_mem_singleton.mpr h

lemma cons {p q : Point} {cells : List Point} (h : Trail a b q n cells) (hclose : 2 * stray a b p ≤ moves a b)
    (hwide : apart a.y b.y ≤ apart a.x b.x → Strides b Point.x Point.y p q)
    (htall : apart a.x b.x ≤ apart a.y b.y → Strides b Point.y Point.x p q) :
    Trail a b p (n + 1) (p :: cells) := by
  cases cells with
  | nil => cases h.head_eq
  | cons c cs =>
    obtain rfl : c = q := Option.some.inj h.head_eq
    exact {
      length_eq := congrArg (· + 1) h.length_eq
      head_eq := rfl
      last_eq := h.last_eq
      wide hle := (h.wide hle).cons_cons (hwide hle)
      tall hle := (h.tall hle).cons_cons (htall hle)
      close := List.forall_mem_cons.mpr ⟨hclose, h.close⟩ }

end Trail

lemma On.trace (hr : Roomy a b) (h : On a b i u v) (hn : i + n = moves a b) :
    let cells := (Pen.trace (extent a b) b.x b.y n (pen a b u v)).map Pen.point
    Pen.Draws (extent a b) b.x b.y (pen a b u v) cells ∧ Trail a b (cell a b u v) n cells := by
  -- on the moves to go: `On` says that the pen is at the end exactly when there are none
  induction n generalizing i u v with
  | zero =>
    obtain ⟨hx, hy⟩ := h.at_end_iff.mpr hn
    have hcell : cell a b u v = b := congrArg₂ Point.mk (Int.ofNat_inj.mp hx) (Int.ofNat_inj.mp hy)
    have hstray := h.stray_cell
    have hpoint := h.point_pen hr
    refine ⟨.stop ⟨hx, hy⟩, ?_⟩
    rw [Pen.trace, List.map_singleton, hpoint, hcell]
    rw [hcell] at hstray
    exact .stop hstray
  | succ n ih =>
    have hi : i < moves a b := by omega
    have hend : ¬((pen a b u v).x = b.x ∧ (pen a b u v).y = b.y) := fun he => hi.ne (h.at_end_iff.mp he)
    obtain ⟨hdraws, htrail⟩ := ih (h.next hi) (by omega)
    rw [Pen.trace, if_neg hend, List.map_cons, h.move_pen hi]
    refine ⟨.step hend (h.move?_pen hr hi) hdraws, ?_⟩
    rw [h.point_pen hr]
    exact htrail.cons h.stray_cell (h.strides_wide hi) (h.strides_tall hi)

lemma span_eq {x0 x1 : ℕ} (h0 : x0 < Word.half) (h1 : x1 < Word.half) : span x0 x1 = .ok (apart x0 x1 : ℤ) := by
  have habs : ((x1 : ℤ) - x0).natAbs = apart x0 x1 := by
    simp only [apart]
    omega
  rw [half_eq] at h0 h1
  have hlt : apart x0 x1 < 2 ^ 63 := by
    simp only [apart]
    omega
  rw [span, signed_eq (by rw [half_eq]; omega), ok_bind, habs, signed_eq (by rw [half_eq]; omega)]

end Drawing

/-- A line has one cell for each of its moves besides the first, goes from end to end without a detour, stays within
half a cell of the ideal segment, and is what the loop draws without leaving a signed word. -/
theorem line_trail (a b : Point) (hax : a.x < Word.half) (hay : a.y < Word.half) (hbx : b.x < Word.half)
    (hby : b.y < Word.half) (hfits : moves a b + 1 < 2 ^ 59) :
    ∃ cells, line a b = .ok cells ∧ Drawn a b cells ∧ Trail a b a (moves a b) cells := by
  have hr : Roomy a b := ⟨hax, hay, hbx, hby, hfits⟩
  have hmoves : max (apart a.x b.x : ℤ) (apart a.y b.y) = moves a b := (Nat.cast_max _ _).symm
  have hstart : (⟨a.x, a.y, apart a.x b.x - apart a.y b.y⟩ : Pen) = pen a b 0 0 := by
    simp [pen, cell, toward, lead]
  have hcell : cell a b 0 0 = a := by simp [cell, toward]
  obtain ⟨hdraws, htrail⟩ := On.trace hr near_zero (Nat.zero_add (moves a b))
  rw [hcell] at htrail
  refine ⟨_, ?_, ?_, htrail⟩
  · have hroom : Word.room pointBytes (moves a b + 1) = .ok () := if_pos (by
      rw [half_eq, pointBytes]
      omega)
    have hcount : Word.signed .addition ((moves a b : ℤ) + 1) = .ok ((moves a b + 1 : ℕ) : ℤ) := signed_eq (by
      rw [half_eq]
      omega)
    rw [line, toSigned_eq hax, toSigned_eq hay, toSigned_eq hbx, toSigned_eq hby]
    simp only [span_eq hax hbx, span_eq hay hby, ok_bind, hmoves, hcount, Int.toNat_natCast, hroom, hstart]
    rfl
  · rw [Drawn, toSigned_eq hax, toSigned_eq hay, toSigned_eq hbx, toSigned_eq hby]
    refine ⟨_, _, _, span_eq hax hbx, span_eq hay hby, signed_eq ?_, hstart ▸ hdraws⟩
    have hdx := hr.dx_lt
    have hdy := hr.dy_lt
    simp only [extent] at hdx hdy
    rw [half_eq]
    omega

theorem line_trail_leftward :
    moves ⟨7, 2⟩ ⟨3, 4⟩ + 1 < 2 ^ 59 ∧
      line ⟨7, 2⟩ ⟨3, 4⟩ = .ok [⟨7, 2⟩, ⟨6, 2⟩, ⟨5, 3⟩, ⟨4, 3⟩, ⟨3, 4⟩] ∧
      Drawn ⟨7, 2⟩ ⟨3, 4⟩ [⟨7, 2⟩, ⟨6, 2⟩, ⟨5, 3⟩, ⟨4, 3⟩, ⟨3, 4⟩] ∧
      Trail ⟨7, 2⟩ ⟨3, 4⟩ ⟨7, 2⟩ 4 [⟨7, 2⟩, ⟨6, 2⟩, ⟨5, 3⟩, ⟨4, 3⟩, ⟨3, 4⟩] := by
  have hfits : moves ⟨7, 2⟩ ⟨3, 4⟩ + 1 < 2 ^ 59 := by decide
  obtain ⟨cells, hline, hdrawn, htrail⟩ :=
    line_trail ⟨7, 2⟩ ⟨3, 4⟩ (by decide) (by decide) (by decide) (by decide) hfits
  have hcells : line ⟨7, 2⟩ ⟨3, 4⟩ = .ok [⟨7, 2⟩, ⟨6, 2⟩, ⟨5, 3⟩, ⟨4, 3⟩, ⟨3, 4⟩] := by rfl
  obtain rfl := Except.ok.inj (hline.symm.trans hcells)
  exact ⟨hfits, hline, hdrawn, htrail⟩

end Line

end Navigation
