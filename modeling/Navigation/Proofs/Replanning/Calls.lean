import Navigation.Proofs.Replanning.Changes
import Navigation.Proofs.Replanning.Convergence

namespace Navigation.Replanning

variable {width height : ℕ}

inductive Call (width height : ℕ) where
  | plan
  | replan (added removed : List Point) (moveTo : Option Point)
  | search
  | update (c : Cell width height)

/-- The travelled distance is small enough that no sum of costs leaves the whole numbers that doubles
hold: an estimate is at most `width * height + travelled`, and a key adds a distance on the grid and
the travelled distance again. -/
def Within (width height travelled : ℕ) : Prop :=
  width * height + (width + height) + 2 * travelled < 2 ^ 53

instance (width height travelled : ℕ) : Decidable (Within width height travelled) :=
  inferInstanceAs (Decidable (_ < _))

lemma Within.mono {m n : ℕ} (h : Within width height n) (hm : m ≤ n) : Within width height m := by
  unfold Within at h ⊢
  omega

namespace Planner

variable {s s' t : Planner width height} {c : Cell width height} {k : Call width height}
  {calls : List (Call width height)} {added removed : List Point} {moveTo : Option Point}
  {limits : Limits}

def altered (s : Planner width height) (added removed : List Point) (moveTo : Option Point) :
    Except Error (Planner width height) := do
  let start ← moveTo.mapM (cell .start)
  let added ← added.mapM (cell .obstacle)
  let removed ← removed.mapM (cell .obstacle)
  let s := match start with
    | some c => s.move c
    | none => s
  return removed.foldl (change false) (added.foldl (change true) s)

lemma replan_eq (s : Planner width height) (added removed : List Point) (moveTo : Option Point) :
    s.replan added removed moveTo = (s.altered added removed moveTo).map Planner.plan := by
  change _ = Planner.plan <$> s.altered added removed moveTo
  simp only [altered, map_bind, map_pure]
  rfl

def searched (s : Planner width height) : Call width height → Option (Planner width height)
  | .plan => some s
  | .replan added removed moveTo => (s.altered added removed moveTo).toOption
  | .search => some s
  | .update _ => none

def call (s : Planner width height) : Call width height → Planner width height × Option Plan
  | .plan => (s.plan.1, some s.plan.2)
  | .replan added removed moveTo => match s.replan added removed moveTo with
    | .ok (s', p) => (s', some p)
    | .error _ => (s, none)
  | .search => (s.search.1, none)
  | .update c => (s.update c, none)

def after : Planner width height → List (Call width height) → Planner width height
  | s, [] => s
  | s, k :: calls => (s.call k).1.after calls

def stride (s : Planner width height) (k : Call width height) : ℕ :=
  s.start.toPoint.manhattan (s.call k).1.start.toPoint

def travelled : Planner width height → List (Call width height) → ℕ
  | _, [] => 0
  | s, k :: calls => s.stride k + (s.call k).1.travelled calls

lemma travelled_append (s : Planner width height) (calls : List (Call width height))
    (k : Call width height) :
    s.travelled (calls ++ [k]) = s.travelled calls + (s.after calls).stride k := by
  induction calls generalizing s with
  | nil =>
    change s.stride k + 0 = 0 + s.stride k
    rw [add_comm]
  | cons k' calls ih => rw [List.cons_append, travelled, ih, travelled, after, add_assoc]

lemma travelled_le (s : Planner width height) (calls : List (Call width height)) :
    s.travelled calls ≤ calls.length * (width + height) := by
  induction calls generalizing s with
  | nil => exact Nat.zero_le _
  | cons k calls ih =>
    have hle := ih (s.call k).1
    have hlt := s.start.manhattan_lt (s.call k).1.start
    rw [travelled, stride, List.length_cons, Nat.succ_mul]
    omega

lemma search_eq (s : Planner width height) :
    s.search = (rest (s.limits.searchCap width height) s,
      (trace (s.limits.searchCap width height) s).length) := by
  rw [search, searchFrom_eq, zero_add]

lemma call_of_altered (h : s.altered added removed moveTo = .ok t) :
    s.call (.replan added removed moveTo) = (t.search.1, some t.plan.2) := by
  rw [call, replan_eq, h]
  rfl

lemma searched_cases (h : s.searched k = some t) : t = s ∧ (k = .plan ∨ k = .search) ∨
    ∃ added removed moveTo, k = .replan added removed moveTo ∧ s.altered added removed moveTo = .ok t := by
  cases k with
  | plan => exact Or.inl ⟨(Option.some.inj h).symm, Or.inl rfl⟩
  | replan added removed moveTo =>
    refine Or.inr ⟨added, removed, moveTo, rfl, ?_⟩
    rw [searched] at h
    cases ha : s.altered added removed moveTo with
    | error e =>
      rw [ha] at h
      cases h
    | ok t' =>
      rw [ha] at h
      exact congrArg Except.ok (Option.some.inj h)
  | search => exact Or.inl ⟨(Option.some.inj h).symm, Or.inr rfl⟩
  | update c => cases h

lemma call_of_searched (h : s.searched k = some t) : (s.call k).1 = t.search.1 ∧
    ∀ p, (s.call k).2 = some p → p = t.plan.2 := by
  rcases searched_cases h with ⟨rfl, rfl | rfl⟩ | ⟨added, removed, moveTo, rfl, ha⟩
  · exact ⟨rfl, fun p hp => (Option.some.inj hp).symm⟩
  · exact ⟨rfl, fun p hp => by cases hp⟩
  · rw [call_of_altered ha]
    exact ⟨rfl, fun p hp => (Option.some.inj hp).symm⟩

lemma call_of_not_searched (hs : s.searched k = none) :
    (s.call k).2 = none ∧ ((s.call k).1 = s ∨ ∃ c, (s.call k).1 = s.update c) := by
  cases k with
  | plan => cases hs
  | replan added removed moveTo =>
    rw [searched] at hs
    rw [call, replan_eq]
    cases ha : s.altered added removed moveTo with
    | error e => exact ⟨rfl, Or.inl rfl⟩
    | ok t =>
      rw [ha] at hs
      cases hs
  | search => cases hs
  | update c => exact ⟨rfl, Or.inr ⟨c, rfl⟩⟩

lemma searched_of_answer {p : Plan} (h : (s.call k).2 = some p) :
    ∃ t, s.searched k = some t ∧ p = t.plan.2 := by
  cases ht : s.searched k with
  | none =>
    rw [(call_of_not_searched ht).1] at h
    cases h
  | some t => exact ⟨t, rfl, (call_of_searched ht).2 p h⟩

lemma altered_eq_ok (h : s.altered added removed moveTo = .ok t) :
    ∃ (s' : Planner width height) (as rs : List (Cell width height)),
      (s' = s ∨ ∃ c, s' = s.move c) ∧ t = rs.foldl (change false) (as.foldl (change true) s') := by
  unfold altered at h
  simp only [bind_eq_ok] at h
  obtain ⟨start, -, as, -, rs, -, ht⟩ := h
  refine ⟨_, as, rs, ?_, (Except.ok.inj ht).symm⟩
  cases start with
  | none => exact Or.inl rfl
  | some c => exact Or.inr ⟨c, rfl⟩

lemma altered_of_cells (s : Planner width height) (as rs : List (Cell width height))
    (c : Cell width height) :
    s.altered (as.map Cell.toPoint) (rs.map Cell.toPoint) (some c.toPoint) =
      .ok (rs.foldl (change false) (as.foldl (change true) (s.move c))) :=
  bind_eq_ok.mpr ⟨some c, mapM_start_eq_ok.mpr rfl, bind_eq_ok.mpr ⟨as, mapM_cell_eq_ok.mpr rfl,
    bind_eq_ok.mpr ⟨rs, mapM_cell_eq_ok.mpr rfl, rfl⟩⟩⟩

lemma moved_congr (h : s'.km = s.km) : s'.moved = s.moved := by rw [moved, h, moved]

lemma Coherent.altered (h : s.Coherent ∅) (ha : s.altered added removed moveTo = .ok t)
    (hw : Within width height (s.moved + s.start.toPoint.manhattan t.start.toPoint)) :
    t.Coherent ∅ ∧ t.moved = s.moved + s.start.toPoint.manhattan t.start.toPoint ∧
      t.goal = s.goal ∧ t.limits = s.limits := by
  obtain ⟨s', as, rs, hs', rfl⟩ := altered_eq_ok ha
  obtain ⟨hstart, hgoal, hkm, hlimits⟩ := foldl_change_eq true as s'
  obtain ⟨hstart', hgoal', hkm', hlimits'⟩ :=
    foldl_change_eq false rs (as.foldl (Planner.change true) s')
  have hc (hs : s'.Coherent ∅) := (hs.foldl_change true as).foldl_change false rs
  rw [hstart', hstart] at hw ⊢
  rw [hgoal', hgoal, hlimits', hlimits, moved_congr hkm', moved_congr hkm]
  rcases hs' with rfl | ⟨c, rfl⟩
  · rw [Point.manhattan_self, add_zero]
    exact ⟨hc h, rfl, rfl, rfl⟩
  · have hstart : (s.move c).start = c := rfl
    rw [hstart] at hw ⊢
    obtain ⟨hmove, hmoved⟩ := h.move c hw
    exact ⟨hc hmove, hmoved, rfl, rfl⟩

lemma Alike.search (s : Planner width height) : s.Alike s.search.1 := by
  rw [search_eq]
  exact Alike.rest _ s

lemma Coherent.search (h : s.Coherent ∅) : s.search.1.Coherent ∅ := by
  rw [search_eq]
  exact h.rest _

lemma stride_of_searched (hs : s.searched k = some t) :
    s.stride k = s.start.toPoint.manhattan t.start.toPoint := by
  rw [stride, (call_of_searched hs).1, (Alike.search t).start]

lemma Coherent.searched (h : s.Coherent ∅) (hs : s.searched k = some t)
    (hw : Within width height (s.moved + s.stride k)) :
    t.Coherent ∅ ∧ t.moved = s.moved + s.stride k ∧ t.goal = s.goal ∧ t.limits = s.limits := by
  rw [stride_of_searched hs] at hw ⊢
  rcases searched_cases hs with ⟨rfl, -⟩ | ⟨added, removed, moveTo, -, ha⟩
  · exact ⟨h, by rw [Point.manhattan_self, add_zero], rfl, rfl⟩
  · exact h.altered ha hw

lemma Coherent.call (h : s.Coherent ∅) (hw : Within width height (s.moved + s.stride k)) :
    (s.call k).1.Coherent ∅ ∧ (s.call k).1.moved = s.moved + s.stride k ∧
      (s.call k).1.goal = s.goal ∧ (s.call k).1.limits = s.limits := by
  cases hs : s.searched k with
  | some t =>
    obtain ⟨hc, hmoved, hgoal, hlimits⟩ := h.searched hs hw
    have ha := Alike.search t
    rw [(call_of_searched hs).1]
    exact ⟨hc.search, ha.moved.trans hmoved, ha.goal.trans hgoal, ha.limits.trans hlimits⟩
  | none =>
    have hstart : s.stride k = s.start.toPoint.manhattan (s.call k).1.start.toPoint := rfl
    rcases (call_of_not_searched hs).2 with he | ⟨c, he⟩
    · rw [he, Point.manhattan_self] at hstart
      rw [he, hstart, add_zero]
      exact ⟨h, rfl, rfl, rfl⟩
    · have hu := h.update c
      rw [Set.empty_sdiff] at hu
      rw [he, start_update, Point.manhattan_self] at hstart
      rw [he, hstart, add_zero, moved_update, goal_update, limits_update]
      exact ⟨hu, rfl, rfl, rfl⟩

lemma Coherent.after (h : s.Coherent ∅) (hw : Within width height (s.moved + s.travelled calls)) :
    (s.after calls).Coherent ∅ ∧ (s.after calls).moved = s.moved + s.travelled calls ∧
      (s.after calls).goal = s.goal ∧ (s.after calls).limits = s.limits := by
  induction calls generalizing s with
  | nil => exact ⟨h, by rw [travelled, add_zero]; rfl, rfl, rfl⟩
  | cons k calls ih =>
    rw [travelled, ← add_assoc] at hw ⊢
    obtain ⟨hc, hmoved, hgoal, hlimits⟩ := h.call (hw.mono (Nat.le_add_right _ _))
    rw [← hmoved] at hw ⊢
    obtain ⟨hc', hmoved', hgoal', hlimits'⟩ := ih hc hw
    exact ⟨hc', hmoved', hgoal'.trans hgoal, hlimits'.trans hlimits⟩

end Planner

end Navigation.Replanning
