import Navigation.Proofs.Search.Growth

/-! Legal moves on a grid, and the routes that best-first search makes of them. -/

namespace Navigation

variable {g : Grid} {diagonal : Bool} {p q : Point}

/-- A straight step to a free cell, or a slanted one, if these are allowed, to a free cell past two
free cells. -/
def Legal (g : Grid) (diagonal : Bool) (p q : Point) : Prop :=
  g.isBlocked q = false ∧ (p.manhattan q = 1 ∨ diagonal = true ∧ Point.apart p.x q.x = 1 ∧
    Point.apart p.y q.y = 1 ∧ g.isBlocked ⟨q.x, p.y⟩ = false ∧ g.isBlocked ⟨p.x, q.y⟩ = false)

instance : DecidableRel (Legal g diagonal) := fun _ _ => inferInstanceAs (Decidable (_ ∧ _))

namespace Grid

lemma isBlocked_toPoint (c : Cell g.width g.height) : g.isBlocked c.toPoint = g.blocked.lookup c := by
  simp [isBlocked, cell?, Cell.ofPoint?_eq_some.mpr rfl]

lemma exists_cell (h : g.isBlocked p = false) :
    ∃ c : Cell g.width g.height, c.toPoint = p ∧ g.blocked.lookup c = false := by
  by_cases hp : p.Inside g.width g.height
  · exact ⟨⟨p, hp⟩, rfl, isBlocked_toPoint ⟨p, hp⟩ ▸ h⟩
  · simp [isBlocked, cell?, Cell.ofPoint?, hp] at h

end Grid

namespace Search

def toll (p q : Point) : Float := if p.x = q.x ∨ p.y = q.y then 1.0 else sqrtTwo

def charge (path : List Point) : Float := (path.zip path.tail).foldl (fun sum (p, q) => sum + toll p q) 0.0

variable {c d start goal : Cell g.width g.height} {s x : Float} {path : List (Cell g.width g.height)}

lemma toll_straight (h : p.manhattan q = 1) : toll p q = 1.0 := by
  refine if_pos ?_
  simp only [Point.manhattan, Point.apart] at h
  omega

lemma toll_slanted (hx : Point.apart p.x q.x = 1) (hy : Point.apart p.y q.y = 1) : toll p q = sqrtTwo := by
  refine if_neg ?_
  simp only [Point.apart] at hx hy
  omega

lemma mem_straight : (d, s) ∈ (c.neighbors.filter fun n => !g.blocked.lookup n).map (fun n => (n, 1.0)) ↔
    g.isBlocked d.toPoint = false ∧ c.toPoint.manhattan d.toPoint = 1 ∧ s = 1.0 := by
  simp only [List.mem_map, List.mem_filter, Cell.mem_neighbors, Bool.not_eq_true', Prod.mk.injEq,
    Grid.isBlocked_toPoint]
  constructor
  · rintro ⟨e, ⟨hm, hb⟩, rfl, rfl⟩
    exact ⟨hb, hm, rfl⟩
  · rintro ⟨hb, hm, rfl⟩
    exact ⟨d, ⟨hm, hb⟩, rfl, rfl⟩

lemma mem_slanted :
    (d, s) ∈ ((c.toPoint.diagonals g.width g.height).filter fun n : Cell g.width g.height =>
      !g.blocked.lookup n && !g.blocked.lookup ⟨⟨n.x, c.y⟩, n.inside.1, c.inside.2⟩ &&
        !g.blocked.lookup ⟨⟨c.x, n.y⟩, c.inside.1, n.inside.2⟩).map (fun n => (n, sqrtTwo)) ↔
    g.isBlocked d.toPoint = false ∧ (Point.apart c.x d.x = 1 ∧ Point.apart c.y d.y = 1 ∧
      g.isBlocked ⟨d.x, c.y⟩ = false ∧ g.isBlocked ⟨c.x, d.y⟩ = false) ∧ s = sqrtTwo := by
  simp only [List.mem_map, List.mem_filter, Point.mem_diagonals, Bool.and_eq_true, Bool.not_eq_true',
    Prod.mk.injEq, ← Grid.isBlocked_toPoint]
  constructor
  · rintro ⟨e, ⟨⟨hx, hy⟩, ⟨hb, hv⟩, hh⟩, rfl, rfl⟩
    exact ⟨hb, ⟨hx, hy, hv, hh⟩, rfl⟩
  · rintro ⟨hb, ⟨hx, hy, hv, hh⟩, rfl⟩
    exact ⟨d, ⟨⟨hx, hy⟩, ⟨hb, hv⟩, hh⟩, rfl, rfl⟩

lemma mem_moves : (d, s) ∈ moves g.blocked diagonal c ↔
    Legal g diagonal c.toPoint d.toPoint ∧ s = toll c.toPoint d.toPoint := by
  have hlegal : Legal g diagonal c.toPoint d.toPoint ∧ s = toll c.toPoint d.toPoint ↔
      (g.isBlocked d.toPoint = false ∧ c.toPoint.manhattan d.toPoint = 1 ∧ s = 1.0) ∨
      diagonal = true ∧ g.isBlocked d.toPoint = false ∧
        (Point.apart c.x d.x = 1 ∧ Point.apart c.y d.y = 1 ∧ g.isBlocked ⟨d.x, c.y⟩ = false ∧
          g.isBlocked ⟨c.x, d.y⟩ = false) ∧ s = sqrtTwo := by
    constructor
    · rintro ⟨⟨hb, hm | ⟨hd, hx, hy, hf⟩⟩, hs⟩
      · exact Or.inl ⟨hb, hm, hs.trans (toll_straight hm)⟩
      · exact Or.inr ⟨hd, hb, ⟨hx, hy, hf⟩, hs.trans (toll_slanted hx hy)⟩
    · rintro (⟨hb, hm, hs⟩ | ⟨hd, hb, ⟨hx, hy, hf⟩, hs⟩)
      · exact ⟨⟨hb, Or.inl hm⟩, hs.trans (toll_straight hm).symm⟩
      · exact ⟨⟨hb, Or.inr ⟨hd, hx, hy, hf⟩⟩, hs.trans (toll_slanted hx hy).symm⟩
  rw [hlegal, ← mem_straight, ← mem_slanted]
  cases diagonal with
  | false => simp [moves]
  | true => simp only [moves, if_true, true_and, List.mem_append]

lemma leads_iff : Leads (moves g.blocked diagonal) c d ↔ Legal g diagonal c.toPoint d.toPoint := by
  simp [Leads, mem_moves]

lemma reachable_iff :
    Relation.ReflTransGen (Leads (moves g.blocked diagonal)) start goal ↔
      Relation.ReflTransGen (Legal g diagonal) start.toPoint goal.toPoint := by
  constructor
  · exact fun h => h.lift Cell.toPoint fun _ _ => leads_iff.mp
  · intro h
    have hcell (p : Point) (hp : Relation.ReflTransGen (Legal g diagonal) start.toPoint p) :
        ∃ c : Cell g.width g.height, c.toPoint = p ∧
          Relation.ReflTransGen (Leads (moves g.blocked diagonal)) start c := by
      induction hp with
      | refl => exact ⟨start, rfl, .refl⟩
      | tail _ hm ih =>
        obtain ⟨c, rfl, hr⟩ := ih
        obtain ⟨d, rfl, -⟩ := Grid.exists_cell hm.1
        exact ⟨d, rfl, hr.tail (leads_iff.mpr hm)⟩
    obtain ⟨c, hc, hr⟩ := hcell _ h
    rwa [← Cell.toPoint_injective hc]

lemma isBlocked_of_reachable (hs : g.isBlocked p = false) (h : Relation.ReflTransGen (Legal g diagonal) p q) :
    g.isBlocked q = false := by
  cases h with
  | refl => exact hs
  | tail _ hm => exact hm.1

structure Joins (g : Grid) (diagonal : Bool) (p q : Point) (path : List Point) : Prop where
  first : path.head? = some p
  last : path.getLast? = some q
  legal : path.IsChain (Legal g diagonal)
  nodup : path.Nodup

lemma zip_tail_concat {α : Type} {xs : List α} {x : α} (h : xs.getLast? = some x) (y : α) :
    (xs ++ [y]).zip (xs ++ [y]).tail = xs.zip xs.tail ++ [(x, y)] := by
  induction xs with
  | nil => cases h
  | cons z zs ih =>
    cases zs with
    | nil =>
      rw [List.getLast?_singleton, Option.some_inj] at h
      simp [h]
    | cons w ws => simpa using ih (List.getLast?_cons_cons ▸ h)

lemma charge_concat {path : List Point} (h : path.getLast? = some p) (q : Point) :
    charge (path ++ [q]) = charge path + toll p q := by
  simp [charge, zip_tail_concat h]

namespace Route

variable (h : Route (moves g.blocked diagonal) start c path x)
include h

lemma joins : Joins g diagonal start.toPoint c.toPoint (path.map Cell.toPoint) := by
  refine ⟨by simp [h.head], by simp [h.last], ?_, h.nodup.map Cell.toPoint_injective⟩
  exact (List.isChain_map Cell.toPoint).mpr (h.chain.imp fun _ _ => leads_iff.mp)

lemma charge_eq : charge (path.map Cell.toPoint) = x := by
  induction h with
  | home => rfl
  | @next c d path x s hr hm _ ih =>
    have hlast : (path.map Cell.toPoint).getLast? = some c.toPoint := by simp [hr.last]
    rw [List.map_append, List.map_singleton, charge_concat hlast, ih, (mem_moves.mp hm).2]

end Route

namespace Query

def Ends (q : Query) (a : Plan) : Prop :=
  match q.freeCell? q.start, q.freeCell? q.goal with
  | some start, some goal =>
    Progress.Ends (moves q.grid.blocked q.diagonal) q.estimate goal (Progress.start q.estimate start) a
  | _, _ => a = .failed 0

def closings (q : Query) : List (Node q.grid.width q.grid.height × Option Float) :=
  match q.freeCell? q.start, q.freeCell? q.goal with
  | some start, some goal =>
    Progress.closings (moves q.grid.blocked q.diagonal) q.estimate goal (q.grid.width * q.grid.height)
      (Progress.start q.estimate start)
  | _, _ => []

variable {q : Query} {start goal : Cell q.grid.width q.grid.height}

lemma freeCell?_eq_some {p : Point} {c : Cell q.grid.width q.grid.height} :
    q.freeCell? p = some c ↔ c.toPoint = p ∧ q.grid.isBlocked p = false := by
  rw [freeCell?, Option.filter_eq_some_iff, Grid.cell?, Cell.ofPoint?_eq_some, Bool.not_eq_true']
  refine and_congr_right fun hc => ?_
  rw [← hc, Grid.isBlocked_toPoint]

lemma freeCell?_of_blocked {p : Point} (h : q.grid.isBlocked p = true) : q.freeCell? p = none := by
  by_contra hne
  obtain ⟨c, hc⟩ := Option.ne_none_iff_exists'.mp hne
  simp [(freeCell?_eq_some.mp hc).2] at h

lemma plan_cases (q : Query) :
    (∃ start goal : Cell q.grid.width q.grid.height, q.freeCell? q.start = some start ∧
      q.freeCell? q.goal = some goal ∧
      Progress.Outcome (moves q.grid.blocked q.diagonal) q.estimate start goal
        (Progress.start q.estimate start) [] q.closings q.plan ∧
      ∀ a, q.Ends a ↔ Progress.Ends (moves q.grid.blocked q.diagonal) q.estimate goal
        (Progress.start q.estimate start) a) ∨
    (q.grid.isBlocked q.start = true ∨ q.grid.isBlocked q.goal = true) ∧ q.plan = .failed 0 ∧
      ∀ a, q.Ends a ↔ a = .failed 0 := by
  by_cases h : q.grid.isBlocked q.start = false ∧ q.grid.isBlocked q.goal = false
  · obtain ⟨start, hs, -⟩ := Grid.exists_cell h.1
    obtain ⟨goal, hg, -⟩ := Grid.exists_cell h.2
    have hs' : q.freeCell? q.start = some start := freeCell?_eq_some.mpr ⟨hs, h.1⟩
    have hg' : q.freeCell? q.goal = some goal := freeCell?_eq_some.mpr ⟨hg, h.2⟩
    refine Or.inl ⟨start, goal, hs', hg', ?_, fun a => ?_⟩
    · rw [plan_of_some hs' hg', closings, hs', hg']
      exact Progress.outcome_start _ _ _ _
    · rw [Ends, hs', hg']
  · rw [not_and_or, Bool.not_eq_false, Bool.not_eq_false] at h
    have hnone := h.imp freeCell?_of_blocked freeCell?_of_blocked
    refine Or.inr ⟨h, plan_of_none hnone, fun a => ?_⟩
    unfold Ends
    split
    · rename_i hs hg
      simp [hs, hg] at hnone
    · exact Iff.rfl

lemma ends_iff (q : Query) (a : Plan) : q.Ends a ↔ a = q.plan := by
  rcases q.plan_cases with ⟨start, goal, -, -, ho, hends⟩ | ⟨-, hp, hends⟩
  · rw [hends]
    exact ⟨fun h => h.unique ho.ends, fun h => h ▸ ho.ends⟩
  · rw [hp, hends]

lemma success_iff (q : Query) : q.plan.success = true ↔
    (q.start.Inside q.grid.width q.grid.height ∧ q.grid.isBlocked q.start = false) ∧
    (q.goal.Inside q.grid.width q.grid.height ∧ q.grid.isBlocked q.goal = false) ∧
    Relation.ReflTransGen (Legal q.grid q.diagonal) q.start q.goal := by
  rcases q.plan_cases with ⟨start, goal, hs, hg, ho, -⟩ | ⟨hb, hp, -⟩
  · obtain ⟨hs, hsf⟩ := freeCell?_eq_some.mp hs
    obtain ⟨hg, hgf⟩ := freeCell?_eq_some.mp hg
    have hreach : Relation.ReflTransGen (Leads (moves q.grid.blocked q.diagonal)) start goal ↔
        Relation.ReflTransGen (Legal q.grid q.diagonal) q.start q.goal := by
      rw [reachable_iff, hs, hg]
    refine ⟨fun h => ?_, fun h => ?_⟩
    · obtain ⟨path, x, -, hr, -⟩ := ho.found h
      exact ⟨⟨hs ▸ start.inside, hsf⟩, ⟨hg ▸ goal.inside, hgf⟩, hreach.mp hr.reachable⟩
    · by_contra hf
      exact ho.failed (Bool.eq_false_iff.mpr hf) (hreach.mpr h.2.2)
  · rw [hp]
    refine iff_of_false Bool.false_ne_true fun h => ?_
    simp [h.1.2, h.2.1.2] at hb

lemma joins_path (q : Query) (h : q.plan.success = true) :
    Joins q.grid q.diagonal q.start q.goal q.plan.path := by
  rcases q.plan_cases with ⟨start, goal, hs, hg, ho, -⟩ | ⟨-, hp, -⟩
  · obtain ⟨path, x, hpath, hr, -⟩ := ho.found h
    rw [hpath, ← (freeCell?_eq_some.mp hs).1, ← (freeCell?_eq_some.mp hg).1]
    exact hr.joins
  · rw [hp] at h
    exact (Bool.false_ne_true h).elim

lemma explored_le (q : Query) : q.plan.explored ≤
    (Finset.univ.filter fun c : Cell q.grid.width q.grid.height => q.grid.blocked.lookup c = false).card := by
  rcases q.plan_cases with ⟨start, goal, hs, -, ho, -⟩ | ⟨-, hp, -⟩
  · obtain ⟨hs, hsf⟩ := freeCell?_eq_some.mp hs
    refine ho.explored.trans ?_
    rw [← Set.ncard_coe_finset]
    refine Set.ncard_le_ncard (fun c hc => ?_) (Set.toFinite _)
    rw [Finset.mem_coe, Finset.mem_filter, ← Grid.isBlocked_toPoint]
    exact ⟨Finset.mem_univ c, isBlocked_of_reachable (hs ▸ hsf) (reachable_iff.mp hc)⟩
  · rw [hp]
    exact Nat.zero_le _

/-- For any weight, of whatever sign or size and even if it is undefined: the search ends, and in no
other way; it finds a route exactly if there is one; the route is a legal one without repetitions; and
only free cells are looked at. -/
theorem plan_complete (q : Query) :
    (∀ a, q.Ends a ↔ a = q.plan) ∧
    (q.plan.success = true ↔
      (q.start.Inside q.grid.width q.grid.height ∧ q.grid.isBlocked q.start = false) ∧
      (q.goal.Inside q.grid.width q.grid.height ∧ q.grid.isBlocked q.goal = false) ∧
      Relation.ReflTransGen (Legal q.grid q.diagonal) q.start q.goal) ∧
    (q.plan.success = true → Joins q.grid q.diagonal q.start q.goal q.plan.path) ∧
    q.plan.explored ≤
      (Finset.univ.filter fun c : Cell q.grid.width q.grid.height => q.grid.blocked.lookup c = false).card :=
  ⟨q.ends_iff, q.success_iff, q.joins_path, q.explored_le⟩

end Query

end Search

end Navigation
