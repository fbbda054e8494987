import Mathlib.Data.Fintype.Card
import Navigation.Proofs.Number.Tally
import Navigation.Proofs.Replanning.Calls

/-! What the records of a planner say about each other, however far it has travelled. -/

namespace Navigation.Replanning

namespace Planner

variable {width height : ℕ} {s s' : Planner width height} {c d u : Cell width height}
  {e : Entry width height} {q : Queue width height} {P : Set (Cell width height)} {v : Float}
  {start goal : Cell width height} {blocked : Table height width Bool} {limits : Limits}
  {k : Call width height} {added removed : List Point} {moveTo : Option Point}
  {s₀ : Planner width height} {p₀ q₀ : Point} {obstacles : List Point}

structure Kept (I : Planner width height → Prop) : Prop where
  move : ∀ s c, I s → I (s.move c)
  change : ∀ s b c, I s → I (s.change b c)
  update : ∀ s c, I s → I (s.update c)
  step : ∀ s e s', I s → s.step = some (e, s') → I s'

namespace Kept

variable {I : Planner width height → Prop}

lemma rest (h : Kept I) (hs : I s) (fuel : ℕ) : I (Planner.rest fuel s) := rest_induction h.step hs fuel

lemma search (h : Kept I) (hs : I s) : I s.search.1 := by
  rw [search_eq]
  exact h.rest hs _

lemma foldl_change (h : Kept I) (hs : I s) (b : Bool) (l : List (Cell width height)) :
    I (l.foldl (Planner.change b) s) := by
  induction l generalizing s with
  | nil => exact hs
  | cons c l ih => exact ih (h.change s b c hs)

lemma altered (h : Kept I) (hs : I s) (ha : s.altered added removed moveTo = .ok s') : I s' := by
  obtain ⟨t, as, rs, ht, rfl⟩ := altered_eq_ok ha
  have ht' : I t := by
    rcases ht with rfl | ⟨c, rfl⟩
    · exact hs
    · exact h.move s c hs
  exact h.foldl_change (h.foldl_change ht' true as) false rs

lemma searched (h : Kept I) (hs : I s) (ht : s.searched k = some s') : I s' := by
  rcases searched_cases ht with ⟨rfl, -⟩ | ⟨added, removed, moveTo, -, ha⟩
  · exact hs
  · exact h.altered hs ha

lemma call (h : Kept I) (hs : I s) (k : Call width height) : I (s.call k).1 := by
  cases ht : s.searched k with
  | some t =>
    rw [(call_of_searched ht).1]
    exact h.search (h.searched hs ht)
  | none =>
    rcases (call_of_not_searched ht).2 with he | ⟨c, he⟩
    · rw [he]
      exact hs
    · rw [he]
      exact h.update s c hs

lemma after (h : Kept I) (hs : I s) (calls : List (Call width height)) : I (s.after calls) := by
  induction calls generalizing s with
  | nil => exact hs
  | cons k calls ih => exact ih (h.call hs k)

end Kept

/-- The records agree, except for the cells in `P`, which still wait for their update. -/
structure Tidy (s : Planner width height) (P : Set (Cell width height)) : Prop where
  tally : ∀ c, Tally (s.costAt c).g ∧ Tally (s.costAt c).rhs
  goal : (s.costAt s.goal).rhs = 0.0
  rhs : ∀ c ∉ P, (s.costAt c).rhs = s.lookahead c
  idle : ∀ c ∉ P, s.queued c = none ↔ (s.costAt c).consistent = true
  valid : s.queue.Valid

def offers (s : Planner width height) (c : Cell width height) : List Float :=
  (c.neighbors.filter s.isFree).map fun n => (s.costAt n).g + stepCost

lemma throughNeighbors_eq (s : Planner width height) (c : Cell width height) :
    s.throughNeighbors c =
      (s.offers c).foldl (fun least y => if y < least then y else least) Plan.infinity := by
  rw [offers, List.foldl_map]
  rfl

lemma lookahead_congr (hgoal : s'.goal = s.goal)
    (hblocked : ∀ d, d = c ∨ d ∈ c.neighbors → s'.blocked.lookup d = s.blocked.lookup d)
    (hg : ∀ d ∈ c.neighbors, (s'.costAt d).g = (s.costAt d).g)
    (hrhs : c = s.goal → (s'.costAt c).rhs = (s.costAt c).rhs) : s'.lookahead c = s.lookahead c := by
  have hfree (d : Cell width height) (hd : d = c ∨ d ∈ c.neighbors) : s'.isFree d = s.isFree d := by
    rw [isFree, hblocked d hd, isFree]
  have hoffers : s'.offers c = s.offers c := by
    rw [offers, offers, List.filter_congr fun d hd => hfree d (Or.inr hd)]
    exact List.map_congr_left fun d hd => by rw [hg d (List.mem_filter.mp hd).1]
  rw [lookahead, lookahead, hgoal, hfree c (Or.inl rfl), throughNeighbors_eq, throughNeighbors_eq,
    hoffers]
  split
  · rename_i hc
    exact hrhs hc
  · rfl

lemma rhs_goal_update : ((s.update c).costAt s.goal).rhs = (s.costAt s.goal).rhs := by
  rw [costAt_update]
  split
  · rename_i hc
    rw [← hc]
    exact if_pos rfl
  · rfl

lemma lookahead_update : (s.update c).lookahead d = s.lookahead d :=
  lookahead_congr goal_update (fun e _ => by rw [blocked_update]) (fun _ _ => g_costAt_update)
    fun hd => hd ▸ rhs_goal_update

lemma rhs_costAt_setG : ((s.setG c v).costAt d).rhs = (s.costAt d).rhs := by
  rw [costAt_setG]
  split
  · rename_i hd
    rw [hd]
  · rfl

lemma lookahead_setG (hd : d ∉ c.neighbors) : (s.setG c v).lookahead d = s.lookahead d := by
  refine lookahead_congr rfl (fun _ _ => rfl) (fun e he => ?_) fun _ => rhs_costAt_setG
  rw [costAt_setG, if_neg]
  rintro rfl
  exact hd (Cell.mem_neighbors_comm.mp he)

lemma tally_offers (h : ∀ d, Tally (s.costAt d).g) : ∀ x ∈ s.offers c, Tally x := by
  intro x hx
  obtain ⟨n, -, rfl⟩ := List.mem_map.mp hx
  exact (h n).succ

lemma least_throughNeighbors (h : ∀ d, Tally (s.costAt d).g) (c : Cell width height) :
    Least (s.throughNeighbors c) (s.offers c) := by
  rw [throughNeighbors_eq]
  exact least_foldl (tally_offers h)

namespace Tidy

lemma tally_lookahead (h : s.Tidy P) (c : Cell width height) : Tally (s.lookahead c) := by
  have hg (d : Cell width height) : Tally (s.costAt d).g := (h.tally d).1
  rw [lookahead]
  split
  · exact (h.tally c).2
  · split
    · rcases least_throughNeighbors hg c with ⟨he, -⟩ | ⟨hm, -⟩
      · rw [he]
        exact Tally.infinity
      · exact tally_offers hg _ hm
    · exact Tally.infinity

lemma update (h : s.Tidy P) (c : Cell width height) : (s.update c).Tidy (P \ {c}) := by
  have hcost (d : Cell width height) : (s.update c).costAt d =
      if d = c then { s.costAt c with rhs := s.lookahead c } else s.costAt d := costAt_update
  constructor
  · intro d
    rw [hcost]
    split
    · exact ⟨(h.tally c).1, h.tally_lookahead c⟩
    · exact h.tally d
  · rw [goal_update, rhs_goal_update]
    exact h.goal
  · intro d hd
    rw [lookahead_update, hcost]
    split
    · rename_i hc
      rw [hc]
    · rename_i hne
      exact h.rhs d fun hp => hd ⟨hp, hne⟩
  · intro d hd
    by_cases hc : d = c
    · subst d
      rw [queued_update_self]
      split
      · rename_i he
        exact iff_of_true rfl he
      · rename_i he
        exact iff_of_false (Option.some_ne_none _) he
    · rw [queued_update_of_ne hc, hcost, if_neg hc]
      exact h.idle d fun hp => hd ⟨hp, hc⟩
  · exact valid_update h.valid

lemma mends : Mends fun s : Planner width height => s.Tidy := fun _ _ c h => h.update c

lemma updateNeighbors (h : s.Tidy {d | d ∈ c.neighbors}) : (s.updateNeighbors c).Tidy ∅ :=
  mends.updateNeighbors h

lemma touched (h : s.Tidy {c}) (hv : Tally v) :
    (s.setG c v).Tidy (insert c {d | d ∈ c.neighbors}) := by
  have hcost (d : Cell width height) : (s.setG c v).costAt d =
      if d = c then { s.costAt c with g := v } else s.costAt d := costAt_setG
  constructor
  · intro d
    rw [hcost]
    split
    · exact ⟨hv, (h.tally c).2⟩
    · exact h.tally d
  · exact rhs_costAt_setG.trans h.goal
  · intro d hd
    rw [Set.mem_insert_iff, not_or] at hd
    rw [lookahead_setG hd.2, rhs_costAt_setG]
    exact h.rhs d hd.1
  · intro d hd
    rw [Set.mem_insert_iff, not_or] at hd
    rw [hcost, if_neg hd.1]
    exact h.idle d hd.1
  · exact h.valid

lemma updated (h : s.Tidy (insert c {d | d ∈ c.neighbors})) :
    ((s.update c).updateNeighbors c).Tidy ∅ :=
  updateNeighbors (mends.updated h)

lemma drop (h : s.Tidy (insert c P)) (hr : (s.costAt c).rhs = s.lookahead c)
    (hi : s.queued c = none ↔ (s.costAt c).consistent = true) : s.Tidy P where
  tally := h.tally
  goal := h.goal
  rhs d hd := by
    by_cases hc : d = c
    · rwa [hc]
    · exact h.rhs d (by simp [hc, hd])
  idle d hd := by
    by_cases hc : d = c
    · rwa [hc]
    · exact h.idle d (by simp [hc, hd])
  valid := h.valid

lemma settle (h : s.Tidy {u}) (hr : (s.costAt u).rhs = s.lookahead u) (hq : s.queued u = none) :
    (s.settle u).Tidy ∅ := by
  unfold Planner.settle
  dsimp only
  split
  · -- the cell now agrees with its lookahead, so it is right that it is not queued
    have ht := h.touched (h.tally u).2
    have hcost : (s.setG u (s.costAt u).rhs).costAt u = ⟨(s.costAt u).rhs, (s.costAt u).rhs⟩ := by
      rw [costAt_setG, if_pos rfl]
    have hlook : (s.setG u (s.costAt u).rhs).lookahead u = s.lookahead u :=
      lookahead_setG u.not_mem_neighbors
    refine (ht.drop (by rw [hcost, hlook, ← hr]) (iff_of_true hq ?_)).updateNeighbors
    rw [hcost]
    exact ((h.tally u).2.beq_iff (h.tally u).2).mpr rfl
  · exact (h.touched Tally.infinity).updated

lemma pop (h : s.Tidy ∅) (hp : s.queue.pop? = some (e, q)) :
    ({ s with queue := q } : Planner width height).Tidy {e.cell} where
  tally := h.tally
  goal := h.goal
  rhs d _ := h.rhs d (Set.notMem_empty d)
  idle d hd := by
    have hq : ({ s with queue := q } : Planner width height).queued d = s.queued d :=
      (Queue.keys_of_pop hp).trans (if_neg (by simpa using hd))
    rw [hq]
    exact h.idle d (Set.notMem_empty d)
  valid := h.valid.of_pop hp

lemma step (h : s.Tidy ∅) (hs : s.step = some (e, s')) : s'.Tidy ∅ := by
  obtain ⟨q, hp, -, rfl⟩ := step_eq_some.mp hs
  have hq : ({ s with queue := q } : Planner width height).queued e.cell = none :=
    (Queue.keys_of_pop hp).trans (if_pos rfl)
  exact (h.pop hp).settle (h.rhs _ (Set.notMem_empty _)) hq

lemma move (h : s.Tidy ∅) (c : Cell width height) : (s.move c).Tidy ∅ :=
  ⟨h.tally, h.goal, h.rhs, h.idle, h.valid⟩

lemma change (h : s.Tidy ∅) (b : Bool) (c : Cell width height) : (s.change b c).Tidy ∅ := by
  have hput : ({ s with blocked := s.blocked.put c b } : Planner width height).Tidy
      (insert c {d | d ∈ c.neighbors}) := by
    refine ⟨h.tally, h.goal, fun d hd => ?_, fun d _ => h.idle d (Set.notMem_empty d), h.valid⟩
    rw [Set.mem_insert_iff, not_or] at hd
    have hlook : ({ s with blocked := s.blocked.put c b } : Planner width height).lookahead d =
        s.lookahead d := by
      refine lookahead_congr rfl (fun e he => ?_) (fun _ _ => rfl) fun _ => rfl
      refine (Table.lookup_put _ _ _ _).trans (if_neg ?_)
      rintro rfl
      rcases he with rfl | he
      · exact hd.1 rfl
      · exact hd.2 (Cell.mem_neighbors_comm.mp he)
    rw [hlook]
    exact h.rhs d (Set.notMem_empty d)
  exact hput.updated

lemma kept : Kept fun s : Planner width height => s.Tidy ∅ where
  move _ c h := h.move c
  change _ b c h := h.change b c
  update _ c h := by
    have hu := h.update c
    rwa [Set.empty_sdiff] at hu
  step _ _ _ h hs := h.step hs

end Tidy

lemma tidy_blank : (blank start goal blocked limits).Tidy {goal} := by
  have hcost (d : Cell width height) : (blank start goal blocked limits).costAt d =
      if d = goal then { Costs.unseen with rhs := 0.0 } else Costs.unseen := costAt_blank_eq_ite
  have hg (d : Cell width height) : ((blank start goal blocked limits).costAt d).g = Plan.infinity := by
    rw [hcost]
    split <;> rfl
  have htally (d : Cell width height) : Tally ((blank start goal blocked limits).costAt d).g :=
    hg d ▸ Tally.infinity
  have hthrough (d : Cell width height) :
      (blank start goal blocked limits).throughNeighbors d = Plan.infinity := by
    rcases least_throughNeighbors htally d with ⟨he, -⟩ | ⟨hm, -⟩
    · exact he
    · obtain ⟨n, -, he⟩ := List.mem_map.mp hm
      rw [← he, hg]
      exact Cost.infinity_add (n := 1) (by norm_num)
  constructor
  · intro d
    refine ⟨htally d, ?_⟩
    rw [hcost]
    split
    · exact Tally.zero
    · exact Tally.infinity
  · change ((blank start goal blocked limits).costAt goal).rhs = _
    rw [hcost, if_pos rfl]
  · intro d hd
    have hne : ¬ d = goal := hd
    have hne' : ¬ d = (blank start goal blocked limits).goal := hd
    rw [lookahead, hthrough, hcost, if_neg hne, if_neg hne', ite_self]
    rfl
  · intro d hd
    have hne : ¬ d = goal := hd
    have hq : (blank start goal blocked limits).queued d = none := Table.lookup_uniform none d
    rw [hq, hcost, if_neg hne]
    exact iff_of_true rfl rfl
  · exact Queue.valid_empty

lemma tidy_fresh : (fresh start goal blocked limits).Tidy ∅ := by
  have h : (blank start goal blocked limits).Tidy {goal} := tidy_blank
  have hu := h.update goal
  rwa [Set.sdiff_self] at hu

lemma kept_limits (limits : Limits) : Kept fun s : Planner width height => s.limits = limits where
  move _ _ h := h
  change s b c h := (Alike.change s b c).limits.trans h
  update s c h := (Alike.update s c).limits.trans h
  step _ _ _ h hs := (Alike.step hs).limits.trans h

lemma tidy_of_history (hnew : Planner.new width height p₀ q₀ obstacles limits = .ok s₀)
    (calls : List (Call width height)) :
    Feasible width height limits ∧ (s₀.after calls).Tidy ∅ ∧ (s₀.after calls).limits = limits := by
  obtain ⟨hf, start, goal, cs, -, -, -, rfl⟩ := new_eq_ok.mp hnew
  exact ⟨hf, Tidy.kept.after tidy_fresh calls, (kept_limits limits).after limits_fresh calls⟩

lemma route_of_answer {a : Plan} (ha : (s.call k).2 = some a) : a.route = (s.call k).1.extract := by
  obtain ⟨t, ht, rfl⟩ := searched_of_answer ha
  rw [(call_of_searched ht).1]
  rfl

/-- What the records of a planner say: the lookaheads are those that the map and the estimates give, and
the queue is in order and has one entry for each cell whose costs differ, under the recorded key. -/
structure Lawful (s : Planner width height) : Prop where
  goal : (s.costAt s.goal).rhs = 0.0
  blocked : ∀ c, c ≠ s.goal → s.isFree c = false → (s.costAt c).rhs = Plan.infinity
  free : ∀ c, c ≠ s.goal → s.isFree c = true → Least (s.costAt c).rhs (s.offers c)
  queued : ∀ c, (∃ e ∈ s.queue.entries, e.cell = c) ↔ (s.costAt c).consistent = false
  once : (s.queue.entries.map Entry.cell).Nodup
  recorded : ∀ e, e ∈ s.queue.entries ↔ s.queue.keys.lookup e.cell = some e.key
  ordered : s.queue.entries.Pairwise fun a b => compare a.key b.key ≠ .gt
  size : s.queue.size = (Finset.univ.filter fun c => (s.costAt c).consistent = false).card

lemma Tidy.queued_iff (h : s.Tidy ∅) (c : Cell width height) :
    (∃ e ∈ s.queue.entries, e.cell = c) ↔ (s.costAt c).consistent = false := by
  have hi := h.idle c (Set.notMem_empty c)
  rw [← Bool.not_eq_true, ← hi]
  constructor
  · rintro ⟨e, he, rfl⟩ hn
    cases hn.symm.trans ((h.valid.mem_iff e).mp he)
  · intro hn
    obtain ⟨key, hkey⟩ := Option.ne_none_iff_exists'.mp hn
    exact ⟨⟨key, c⟩, (h.valid.mem_iff _).mpr hkey, rfl⟩

end Planner

lemma Queue.Valid.nodup_cells {width height : ℕ} {q : Queue width height} (h : q.Valid) :
    (q.entries.map Entry.cell).Nodup := by
  refine h.nodup.map_on fun e he e' he' hc => ?_
  obtain ⟨key, c⟩ := e
  obtain ⟨key', c'⟩ := e'
  obtain rfl : c = c' := hc
  have hkey : some key = some key' := ((h.mem_iff ⟨key, c⟩).mp he).symm.trans ((h.mem_iff ⟨key', c⟩).mp he')
  rw [Option.some.inj hkey]

lemma Planner.Tidy.lawful {width height : ℕ} {s : Planner width height} (h : s.Tidy ∅) : s.Lawful where
  goal := h.goal
  blocked c hc hb := by
    rw [h.rhs c (Set.notMem_empty c), lookahead, if_neg hc, hb, if_neg Bool.false_ne_true]
  free c hc hf := by
    rw [h.rhs c (Set.notMem_empty c), lookahead, if_neg hc, if_pos hf]
    exact least_throughNeighbors (fun d => (h.tally d).1) c
  queued := h.queued_iff
  once := h.valid.nodup_cells
  recorded := h.valid.mem_iff
  ordered := h.valid.sorted.imp fun hle hgt => (Key.compare_eq_gt.mp hgt).not_ge hle
  size := by
    have hset : (s.queue.entries.map Entry.cell).toFinset =
        Finset.univ.filter fun c => (s.costAt c).consistent = false := by
      ext c
      rw [List.mem_toFinset, List.mem_map, Finset.mem_filter]
      exact (h.queued_iff c).trans (and_iff_right (Finset.mem_univ c)).symm
    rw [← hset, List.toFinset_card_of_nodup h.valid.nodup_cells, List.length_map]
    rfl

end Navigation.Replanning
