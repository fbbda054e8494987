import Mathlib.Combinatorics.SimpleGraph.Metric
import Mathlib.Combinatorics.SimpleGraph.Paths
import Mathlib.Data.Fintype.EquivFin
import Mathlib.Data.Fintype.Prod
import Navigation.Grid.Cell

namespace Navigation

namespace Cell

variable {width height : ℕ} {c : Cell width height} {p : Point}

lemma toPoint_injective : Function.Injective (toPoint : Cell width height → Point) := by
  rintro ⟨p, hp⟩ ⟨q, hq⟩ h
  congr

lemma ofPoint?_eq_some : ofPoint? width height p = some c ↔ c.toPoint = p := by
  unfold ofPoint?
  split
  · rw [Option.some_inj]
    exact ⟨fun h => h ▸ rfl, fun h => toPoint_injective h.symm⟩
  · rename_i hp
    exact iff_of_false (Option.some_ne_none c).symm fun h => hp (h ▸ c.inside)

end Cell

namespace Point

@[simp] lemma manhattan_self (p : Point) : p.manhattan p = 0 := by simp [manhattan, apart]

lemma manhattan_comm (p q : Point) : p.manhattan q = q.manhattan p := by
  simp only [manhattan, apart]
  omega

lemma manhattan_triangle (p q r : Point) : p.manhattan r ≤ p.manhattan q + q.manhattan r := by
  simp only [manhattan, apart]
  omega

lemma eq_of_manhattan {p q : Point} (h : p.manhattan q = 0) : p = q := by
  obtain ⟨px, py⟩ := p
  obtain ⟨qx, qy⟩ := q
  simp only [manhattan, apart] at h
  congr <;> omega

lemma shift?_bind_eq_some {width height : ℕ} {p : Point} {o : ℤ × ℤ} {d : Cell width height} :
    (p.shift? o).bind (Cell.ofPoint? width height) = some d ↔ o = ((d.x : ℤ) - p.x, (d.y : ℤ) - p.y) := by
  obtain ⟨x, y⟩ := o
  obtain ⟨⟨dx, dy⟩, _⟩ := d
  unfold shift?
  dsimp only
  split
  · rw [Option.bind_some, Cell.ofPoint?_eq_some, Point.mk.injEq, Prod.mk.injEq]
    omega
  · rw [Prod.mk.injEq]
    simp only [Option.bind_none, reduceCtorEq, false_iff]
    omega

lemma mem_around {width height : ℕ} {p : Point} {offsets : List (ℤ × ℤ)} {d : Cell width height} :
    d ∈ (p.around width height offsets : List (Cell width height)) ↔
      ((d.x : ℤ) - p.x, (d.y : ℤ) - p.y) ∈ offsets := by
  simp only [around, List.mem_filterMap, shift?_bind_eq_some, exists_eq_right]

lemma mem_neighbors4 {width height : ℕ} {p : Point} {d : Cell width height} :
    d ∈ p.neighbors4 width height ↔ p.manhattan d.toPoint = 1 := by
  rw [neighbors4, mem_around]
  simp only [straightOffsets, manhattan, apart, List.mem_cons, Prod.mk.injEq, List.not_mem_nil, or_false]
  omega

lemma mem_diagonals {width height : ℕ} {p : Point} {d : Cell width height} :
    d ∈ (p.diagonals width height : List (Cell width height)) ↔ apart p.x d.x = 1 ∧ apart p.y d.y = 1 := by
  rw [diagonals, mem_around]
  simp only [diagonalOffsets, apart, List.mem_cons, Prod.mk.injEq, List.not_mem_nil, or_false]
  omega

end Point

namespace Cell

variable {width height : ℕ}

lemma mem_neighbors {c d : Cell width height} :
    d ∈ c.neighbors ↔ c.toPoint.manhattan d.toPoint = 1 :=
  Point.mem_neighbors4

lemma mem_neighbors_comm {c d : Cell width height} : d ∈ c.neighbors ↔ c ∈ d.neighbors := by
  rw [mem_neighbors, mem_neighbors, Point.manhattan_comm]

lemma not_mem_neighbors (c : Cell width height) : c ∉ c.neighbors := by
  rw [mem_neighbors, Point.manhattan_self]
  exact zero_ne_one

lemma manhattan_lt (c d : Cell width height) : c.toPoint.manhattan d.toPoint < width + height := by
  have hc := c.inside
  have hd := d.inside
  simp only [Point.Inside] at hc hd
  simp only [Point.manhattan, Point.apart]
  omega

def equiv : Cell width height ≃ Fin width × Fin height where
  toFun c := (c.col, c.row)
  invFun p := ⟨⟨p.1, p.2⟩, p.1.isLt, p.2.isLt⟩

instance : Fintype (Cell width height) := Fintype.ofEquiv _ equiv.symm

lemma card_eq : Fintype.card (Cell width height) = width * height := by
  rw [Fintype.card_congr equiv, Fintype.card_prod, Fintype.card_fin, Fintype.card_fin]

end Cell

variable {width height : ℕ}

def roads (blocked : Table height width Bool) : SimpleGraph (Cell width height) where
  Adj c d := d ∈ c.neighbors ∧ blocked.lookup c = false ∧ blocked.lookup d = false
  symm := ⟨fun _ _ h => ⟨Cell.mem_neighbors_comm.mp h.1, h.2.2, h.2.1⟩⟩
  loopless := ⟨fun c h => c.not_mem_neighbors h.1⟩

namespace roads

variable {blocked : Table height width Bool} {c d e : Cell width height}

instance : DecidableRel (roads blocked).Adj := fun c d =>
  inferInstanceAs (Decidable (d ∈ c.neighbors ∧ blocked.lookup c = false ∧ blocked.lookup d = false))

lemma reachable_of_isChain (path : List (Cell width height))
    (h : List.IsChain (roads blocked).Adj (c :: path)) (hd : (c :: path).getLast? = some d) :
    (roads blocked).Reachable c d := by
  rw [List.getLast?_eq_some_getLast (List.cons_ne_nil c path), Option.some_inj] at hd
  exact (SimpleGraph.reachable_iff_reflTransGen c d).mpr
    (List.relationReflTransGen_of_exists_isChain_cons path h hd)

lemma manhattan_of_adj (h : (roads blocked).Adj c d) : c.toPoint.manhattan d.toPoint = 1 :=
  Cell.mem_neighbors.mp h.1

lemma manhattan_le_succ (h : (roads blocked).Adj c d) (e : Cell width height) :
    d.toPoint.manhattan e.toPoint ≤ c.toPoint.manhattan e.toPoint + 1 := by
  have ht := Point.manhattan_triangle d.toPoint c.toPoint e.toPoint
  rw [manhattan_of_adj h.symm] at ht
  omega

lemma manhattan_le_length (w : (roads blocked).Walk c d) :
    c.toPoint.manhattan d.toPoint ≤ w.length := by
  induction w with
  | nil => rw [Point.manhattan_self, SimpleGraph.Walk.length_nil]
  | cons hadj q ih =>
    rw [SimpleGraph.Walk.length_cons]
    exact (manhattan_le_succ hadj.symm _).trans (Nat.add_le_add_right ih 1)

lemma edist_le_succ (h : (roads blocked).Adj c d) (e : Cell width height) :
    (roads blocked).edist c e ≤ (roads blocked).edist d e + 1 := by
  have ht := (roads blocked).edist_triangle (u := c) (v := d) (w := e)
  rwa [SimpleGraph.edist_eq_one_iff_adj.mpr h, add_comm] at ht

lemma edist_to_le_succ (h : (roads blocked).Adj c d) (e : Cell width height) :
    (roads blocked).edist e d ≤ (roads blocked).edist e c + 1 := by
  rw [SimpleGraph.edist_comm, SimpleGraph.edist_comm (u := e)]
  exact edist_le_succ h.symm e

lemma exists_closer {n : ℕ} (h : (roads blocked).edist c e = (n + 1 : ℕ)) :
    ∃ d, (roads blocked).Adj c d ∧ (roads blocked).edist d e = n := by
  obtain ⟨p, hp⟩ := (roads blocked).exists_walk_of_edist_eq_coe h
  cases p with
  | nil => simp at hp
  | cons hadj q =>
    rw [SimpleGraph.Walk.length_cons, Nat.add_right_cancel_iff] at hp
    refine ⟨_, hadj, le_antisymm (hp ▸ (roads blocked).edist_le q) ?_⟩
    have hle := edist_le_succ hadj e
    rw [h, Nat.cast_add, Nat.cast_one] at hle
    exact (ENat.add_le_add_iff_right ENat.one_ne_top).mp hle

lemma edist_lt_card (h : (roads blocked).edist c d ≠ ⊤) :
    (roads blocked).edist c d < (width * height : ℕ) := by
  obtain ⟨p, hp, hlen⟩ := ((roads blocked).edist_ne_top_iff_reachable.mp h).exists_path_of_dist
  rw [← Cell.card_eq]
  exact ((roads blocked).edist_le p).trans_lt (Nat.cast_lt.mpr hp.length_lt)

lemma blocked_of_reachable (h : (roads blocked).Reachable c d) (hne : c ≠ d) :
    blocked.lookup c = false := by
  obtain ⟨p⟩ := h
  cases p with
  | nil => exact (hne rfl).elim
  | cons hadj _ => exact hadj.2.1

end roads

end Navigation
