import Navigation.Proofs.Replanning.Answers
import Navigation.Proofs.Replanning.Entries

namespace Navigation.Replanning

lemma Costs.ext : ∀ {x y : Costs}, x.g = y.g → x.rhs = y.rhs → x = y
  | ⟨_, _⟩, ⟨_, _⟩, rfl, rfl => rfl

namespace Planner

variable {width height : ℕ} {s t t' u s₀ : Planner width height} {c d : Cell width height}
  {F G : Set (Cell width height)} {as as' rs rs' : List (Cell width height)} {limits : Limits}
  {p q : Point} {obstacles added added' removed removed' : List Point} {moveTo : Option Point}

structure Touches (F : Set (Cell width height)) (s t : Planner width height) : Prop where
  start : t.start = s.start
  goal : t.goal = s.goal
  km : t.km = s.km
  limits : t.limits = s.limits
  g : ∀ d, (t.costAt d).g = (s.costAt d).g
  kept : ∀ d ∉ F, t.costAt d = s.costAt d ∧ t.queued d = s.queued d
  current : ∀ d ∈ F, t.queued d = if (t.costAt d).consistent then none else some (t.keyOf d)

namespace Touches

lemma refl (s : Planner width height) : Touches ∅ s s :=
  ⟨rfl, rfl, rfl, rfl, fun _ => rfl, fun _ _ => ⟨rfl, rfl⟩, fun _ hd => absurd hd (Set.notMem_empty _)⟩

lemma mark (b : Bool) (s : Planner width height) (c : Cell width height) :
    Touches ∅ s { s with blocked := s.blocked.put c b } :=
  ⟨rfl, rfl, rfl, rfl, fun _ => rfl, fun _ _ => ⟨rfl, rfl⟩, fun _ hd => absurd hd (Set.notMem_empty _)⟩

lemma update (s : Planner width height) (c : Cell width height) : Touches {c} s (s.update c) where
  start := start_update
  goal := goal_update
  km := km_update
  limits := limits_update
  g _ := g_costAt_update
  kept d hd := ⟨by rw [costAt_update, if_neg (by simpa using hd)], queued_update_of_ne (by simpa using hd)⟩
  current d hd := by
    rw [Set.mem_singleton_iff.mp hd]
    exact queued_update_self

lemma trans (h : Touches F s t) (h' : Touches G t u) : Touches (F ∪ G) s u where
  start := h'.start.trans h.start
  goal := h'.goal.trans h.goal
  km := h'.km.trans h.km
  limits := h'.limits.trans h.limits
  g d := (h'.g d).trans (h.g d)
  kept d hd := by
    rw [Set.mem_union, not_or] at hd
    obtain ⟨hcost, hqueued⟩ := h.kept d hd.1
    obtain ⟨hcost', hqueued'⟩ := h'.kept d hd.2
    exact ⟨hcost'.trans hcost, hqueued'.trans hqueued⟩
  current d hd := by
    by_cases hG : d ∈ G
    · exact h'.current d hG
    · obtain ⟨hcost, hqueued⟩ := h'.kept d hG
      have hkey : u.keyOf d = t.keyOf d := by rw [keyOf, hcost, h'.start, h'.km, keyOf]
      rw [hqueued, hcost, hkey]
      exact h.current d (hd.resolve_right hG)

lemma foldl {f : Planner width height → Cell width height → Planner width height}
    {N : Cell width height → Set (Cell width height)} (hf : ∀ s c, Touches (N c) s (f s c))
    (l : List (Cell width height)) (s : Planner width height) :
    Touches {d | ∃ c ∈ l, d ∈ N c} s (l.foldl f s) := by
  induction l generalizing s with
  | nil => simpa using refl s
  | cons c l ih =>
    have hset : {d | ∃ e ∈ c :: l, d ∈ N e} = N c ∪ {d | ∃ e ∈ l, d ∈ N e} := by
      ext d
      simp
    rw [hset]
    exact (hf s c).trans (ih (f s c))

lemma change (b : Bool) (s : Planner width height) (c : Cell width height) :
    Touches (insert c {d | d ∈ c.neighbors}) s (s.change b c) := by
  have hset : insert c {d | d ∈ c.neighbors} =
      ∅ ∪ ({c} ∪ {d | ∃ e ∈ c.neighbors, d ∈ ({e} : Set (Cell width height))}) := by
    ext d
    simp
  rw [hset]
  exact (mark b s c).trans ((update _ c).trans (foldl update c.neighbors _))

lemma eq (h : Touches F s t) (h' : Touches F s t') (ht : t.Tidy ∅) (ht' : t'.Tidy ∅)
    (ho : t.queue.Ordered) (ho' : t'.queue.Ordered) (hblocked : t.blocked = t'.blocked) : t = t' := by
  have hstart : t.start = t'.start := h.start.trans h'.start.symm
  have hgoal : t.goal = t'.goal := h.goal.trans h'.goal.symm
  have hkm : t.km = t'.km := h.km.trans h'.km.symm
  have hg (d : Cell width height) : (t.costAt d).g = (t'.costAt d).g := (h.g d).trans (h'.g d).symm
  have hrhs (d : Cell width height) : (t.costAt d).rhs = (t'.costAt d).rhs := by
    rw [ht.rhs d (Set.notMem_empty d), ht'.rhs d (Set.notMem_empty d)]
    refine lookahead_congr hgoal (fun e _ => by rw [hblocked]) (fun e _ => hg e) ?_
    rintro rfl
    rw [ht'.goal, ← hgoal, ht.goal]
  have hcost (d : Cell width height) : t.costAt d = t'.costAt d := Costs.ext (hg d) (hrhs d)
  have hqueued (d : Cell width height) : t.queued d = t'.queued d := by
    by_cases hd : d ∈ F
    · have hkey : t.keyOf d = t'.keyOf d := by rw [keyOf, hcost, hstart, hkm, keyOf]
      rw [h.current d hd, h'.current d hd, hcost, hkey]
    · rw [(h.kept d hd).2, (h'.kept d hd).2]
  have hcosts : t.costs = t'.costs := Table.ext_lookup hcost
  have hqueue : t.queue = t'.queue := ho.ext ho' ht.valid ht'.valid hqueued
  have hlimits : t.limits = t'.limits := h.limits.trans h'.limits.symm
  obtain ⟨_, _, _, _, _, _, _⟩ := t
  obtain ⟨_, _, _, _, _, _, _⟩ := t'
  dsimp only at hstart hgoal hcosts hqueue hblocked hkm hlimits
  rw [hstart, hgoal, hcosts, hqueue, hblocked, hkm, hlimits]

end Touches

def batch (s : Planner width height) (as rs : List (Cell width height)) : Planner width height :=
  rs.foldl (change false) (as.foldl (change true) s)

lemma touches_batch (s : Planner width height) (as rs : List (Cell width height)) :
    Touches ({d | ∃ c ∈ as, d ∈ insert c {d | d ∈ c.neighbors}} ∪
      {d | ∃ c ∈ rs, d ∈ insert c {d | d ∈ c.neighbors}}) s (s.batch as rs) :=
  (Touches.foldl (Touches.change true) as s).trans (Touches.foldl (Touches.change false) rs _)

lemma Kept.batch {I : Planner width height → Prop} (h : Kept I) (hs : I s)
    (as rs : List (Cell width height)) : I (s.batch as rs) :=
  h.foldl_change (h.foldl_change hs true as) false rs

lemma lookup_blocked_batch (s : Planner width height) (as rs : List (Cell width height))
    (d : Cell width height) : (s.batch as rs).blocked.lookup d =
      if d ∈ rs then false else if d ∈ as then true else s.blocked.lookup d := by
  rw [batch, blocked_foldl_change, blocked_foldl_change, lookup_foldl_put, lookup_foldl_put]

lemma batch_congr (ht : s.Tidy ∅) (ho : s.queue.Ordered) (has : ∀ c, c ∈ as ↔ c ∈ as')
    (hrs : ∀ c, c ∈ rs ↔ c ∈ rs') : s.batch as rs = s.batch as' rs' := by
  have h := s.touches_batch as rs
  simp only [has, hrs] at h
  refine h.eq (s.touches_batch as' rs') (Tidy.kept.batch ht as rs) (Tidy.kept.batch ht as' rs')
    (kept_ordered.batch ho as rs) (kept_ordered.batch ho as' rs') (Table.ext_lookup fun d => ?_)
  rw [lookup_blocked_batch, lookup_blocked_batch]
  simp only [has, hrs]

lemma mem_iff_of_map (h : ∀ r, r ∈ added ↔ r ∈ added') (has : as.map Cell.toPoint = added)
    (has' : as'.map Cell.toPoint = added') (c : Cell width height) : c ∈ as ↔ c ∈ as' := by
  have hmem := h c.toPoint
  rwa [← has, ← has', List.mem_map_of_injective Cell.toPoint_injective,
    List.mem_map_of_injective Cell.toPoint_injective] at hmem

lemma exists_mapM_start (hmove : ∀ r ∈ moveTo, r.Inside width height) :
    ∃ m : Option (Cell width height), moveTo.mapM (cell .start) = .ok m := by
  cases moveTo with
  | none => exact ⟨none, rfl⟩
  | some r => exact ⟨some ⟨r, hmove r rfl⟩, mapM_start_eq_ok.mpr rfl⟩

lemma altered_eq_batch {m : Option (Cell width height)} (hm : moveTo.mapM (cell .start) = .ok m)
    (has : as.map Cell.toPoint = added) (hrs : rs.map Cell.toPoint = removed) :
    s.altered added removed moveTo = .ok ((m.elim s s.move).batch as rs) :=
  bind_eq_ok.mpr ⟨m, hm, bind_eq_ok.mpr ⟨as, mapM_cell_eq_ok.mpr has,
    bind_eq_ok.mpr ⟨rs, mapM_cell_eq_ok.mpr hrs, by cases m <;> rfl⟩⟩⟩

/-- Whatever has happened before: lists that name the same cells to be added, and lists that name the
same cells to be removed, lead to the same answer and leave the same planner, in whatever order and
however often they name the cells. -/
theorem replan_congr (hnew : Planner.new width height p q obstacles limits = .ok s₀)
    (calls : List (Call width height)) (hadded : ∀ r, r ∈ added ↔ r ∈ added')
    (hremoved : ∀ r, r ∈ removed ↔ r ∈ removed') (hinside : ∀ r ∈ added ++ removed, r.Inside width height)
    (hmove : ∀ r ∈ moveTo, r.Inside width height) :
    ∃ s a, (s₀.after calls).replan added removed moveTo = .ok (s, a) ∧
      (s₀.after calls).replan added' removed' moveTo = .ok (s, a) := by
  obtain ⟨-, start, goal, cs, -, -, -, rfl⟩ := new_eq_ok.mp hnew
  have ht := Tidy.kept.after tidy_fresh calls (s := fresh start goal (marked cs) limits)
  have ho := kept_ordered.after ordered_fresh calls (s := fresh start goal (marked cs) limits)
  have ha := toPoint_cells added fun r hr => hinside r (List.mem_append_left _ hr)
  have hr := toPoint_cells removed fun r hr => hinside r (List.mem_append_right _ hr)
  have ha' := toPoint_cells added' fun r hr =>
    hinside r (List.mem_append_left _ ((hadded r).mpr hr))
  have hr' := toPoint_cells removed' fun r hr =>
    hinside r (List.mem_append_right _ ((hremoved r).mpr hr))
  obtain ⟨m, hm⟩ := exists_mapM_start hmove
  generalize (fresh start goal (marked cs) limits).after calls = s at ht ho
  have hbatch : (m.elim s s.move).batch (cells added) (cells removed) =
      (m.elim s s.move).batch (cells added') (cells removed') := by
    refine batch_congr ?_ ?_ (mem_iff_of_map hadded ha ha') (mem_iff_of_map hremoved hr hr')
    · cases m with
      | none => exact ht
      | some c => exact ht.move c
    · cases m with
      | none => exact ho
      | some c => exact ho
  refine ⟨((m.elim s s.move).batch (cells added) (cells removed)).plan.1,
    ((m.elim s s.move).batch (cells added) (cells removed)).plan.2, ?_, ?_⟩
  · rw [replan_eq, altered_eq_batch hm ha hr]
    rfl
  · rw [replan_eq, altered_eq_batch hm ha' hr', ← hbatch]
    rfl

theorem replan_congr_after_errand : ∃ s₀ : Planner 3 2, Planner.new 3 2 ⟨0, 0⟩ ⟨2, 0⟩ [] = .ok s₀ ∧ ∃ s a,
    (s₀.after errand).replan [⟨1, 1⟩, ⟨1, 0⟩, ⟨1, 1⟩] [⟨1, 0⟩] (some ⟨0, 0⟩) = .ok (s, a) ∧
    (s₀.after errand).replan [⟨1, 0⟩, ⟨1, 1⟩] [⟨1, 0⟩, ⟨1, 0⟩] (some ⟨0, 0⟩) = .ok (s, a) := by
  have hnew : Planner.new 3 2 ⟨0, 0⟩ ⟨2, 0⟩ [] = .ok _ := rfl
  exact ⟨_, hnew, replan_congr hnew errand (by simp [or_comm]) (by simp) (by decide) (by decide)⟩

end Planner

end Navigation.Replanning
