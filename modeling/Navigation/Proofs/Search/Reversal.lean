import Navigation.Proofs.Grid.Neighbours
import Navigation.Proofs.Search.Moves

namespace Navigation

variable {g : Grid} {diagonal : Bool} {p q : Point}

lemma Point.apart_comm (a b : ℕ) : apart a b = apart b a := Nat.add_comm _ _

lemma Legal.symm (h : Legal g diagonal p q) (hp : g.isBlocked p = false) : Legal g diagonal q p := by
  refine ⟨hp, ?_⟩
  rcases h.2 with hstraight | ⟨hdiagonal, hx, hy, hside, hother⟩
  · exact .inl (p.manhattan_comm q ▸ hstraight)
  · exact .inr ⟨hdiagonal, Point.apart_comm p.x q.x ▸ hx, Point.apart_comm p.y q.y ▸ hy, hother, hside⟩

namespace Search

lemma toll_comm (p q : Point) : toll p q = toll q p :=
  if_congr (or_congr eq_comm eq_comm) rfl rfl

lemma sublist_moves {width height : ℕ} (blocked : Table height width Bool) (diagonal : Bool)
    (c : Cell width height) :
    ((moves blocked diagonal c).map Prod.fst).Sublist (c.toPoint.neighbors8 width height) := by
  have hstraight (l : List (Cell width height)) (x : Float) : (l.map fun n => (n, x)).map Prod.fst = l := by
    rw [List.map_map]
    exact List.map_id l
  cases diagonal with
  | false =>
    rw [moves, if_neg Bool.false_ne_true, hstraight]
    exact List.filter_sublist.trans (List.sublist_append_left _ _)
  | true =>
    rw [moves, if_pos rfl, List.map_append, hstraight, hstraight]
    exact List.filter_sublist.append List.filter_sublist

lemma mem_moves_comm {c d : Cell g.width g.height} {s : Float} (hc : g.blocked.lookup c = false)
    (h : (d, s) ∈ moves g.blocked diagonal c) : (c, s) ∈ moves g.blocked diagonal d := by
  obtain ⟨hlegal, hs⟩ := mem_moves.mp h
  rw [← Grid.isBlocked_toPoint] at hc
  exact mem_moves.mpr ⟨hlegal.symm hc, hs.trans (toll_comm _ _)⟩

open Point

/-- From any point the neighbours that are inside the grid are listed once each, also if its coordinates are as
great as a word can be. Neighbours are so from both sides, and a move between free cells can be taken back at its
cost. -/
theorem neighbours_reversible :
    (∀ (width height : ℕ) (p : Point), Lists (p.neighbors4 width height) (fun q => p.manhattan q = 1) ∧
      Lists (p.neighbors8 width height) fun q => p.chebyshev q = 1) ∧
    (∀ (width height : UInt64) (w : UInt64 × UInt64),
      (straightBeside width height w).map ofWords =
        ((ofWords w).neighbors4 width.toNat height.toNat).map Cell.toPoint ∧
      (allBeside width height w).map ofWords =
        ((ofWords w).neighbors8 width.toNat height.toNat).map Cell.toPoint) ∧
    (∀ (width height : ℕ) (c d : Cell width height),
      (d ∈ c.toPoint.neighbors4 width height ↔ c ∈ d.toPoint.neighbors4 width height) ∧
      (d ∈ c.toPoint.neighbors8 width height ↔ c ∈ d.toPoint.neighbors8 width height)) ∧
    ∀ (g : Grid) (diagonal : Bool) (c : Cell g.width g.height),
      ((moves g.blocked diagonal c).map Prod.fst).Nodup ∧ ∀ (d : Cell g.width g.height) (s : Float),
        ((d, s) ∈ moves g.blocked diagonal c ↔
          Legal g diagonal c.toPoint d.toPoint ∧ s = toll c.toPoint d.toPoint) ∧
        (g.blocked.lookup c = false → g.blocked.lookup d = false →
          ((d, s) ∈ moves g.blocked diagonal c ↔ (c, s) ∈ moves g.blocked diagonal d)) := by
  refine ⟨fun width height p => ⟨lists_neighbors4 width height p, lists_neighbors8 width height p⟩,
    fun width height w => ⟨map_straightBeside width height w, map_allBeside width height w⟩,
    fun width height c d => ⟨?_, ?_⟩,
    fun g diagonal c => ⟨?_, fun d s => ⟨mem_moves, fun hc hd => ?_⟩⟩⟩
  · rw [mem_neighbors4, mem_neighbors4, manhattan_comm]
  · rw [mem_neighbors8, mem_neighbors8, chebyshev_comm]
  · exact (nodup_neighbors8 g.width g.height c.toPoint).sublist (sublist_moves g.blocked diagonal c)
  · exact ⟨mem_moves_comm hc, mem_moves_comm hd⟩

def nook : Grid := Grid.ofRows [[false, false, true], [false, false, false]]

theorem neighbours_reversible_nook :
    nook.blocked.lookup ⟨⟨0, 0⟩, by decide⟩ = false ∧
      nook.blocked.lookup ⟨⟨1, 1⟩, by decide⟩ = false ∧
      (⟨⟨0, 0⟩, by decide⟩, sqrtTwo) ∈ moves nook.blocked true ⟨⟨1, 1⟩, by decide⟩ := by
  have hnear : nook.blocked.lookup ⟨⟨0, 0⟩, by decide⟩ = false := by decide
  have hfar : nook.blocked.lookup ⟨⟨1, 1⟩, by decide⟩ = false := by decide
  obtain ⟨-, hmoves⟩ := neighbours_reversible.2.2.2 nook true ⟨⟨0, 0⟩, by decide⟩
  obtain ⟨hmem, hback⟩ := hmoves ⟨⟨1, 1⟩, by decide⟩ sqrtTwo
  exact ⟨hnear, hfar, (hback hnear hfar).mp (hmem.mpr ⟨by decide, rfl⟩)⟩

end Search

end Navigation
