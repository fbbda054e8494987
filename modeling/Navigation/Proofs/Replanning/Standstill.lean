import Navigation.Proofs.Replanning.Keys

namespace Navigation.Replanning.Planner

variable {width height : ℕ} {s s' s₀ t : Planner width height} {c u : Cell width height}
  {e : Entry width height} {w : List (Act width height)} {k : Call width height}
  {calls : List (Call width height)} {x : ℕ∞ ×ₗ ℕ∞} {limits : Limits} {p q : Point}
  {obstacles added removed : List Point} {moveTo : Option Point} {n : ℕ}

def takings : ℕ → Planner width height → List (Entry width height × Costs)
  | 0, _ => []
  | fuel + 1, s => match s.step with
    | none => []
    | some (e, s') => (e, s.costAt e.cell) :: takings fuel s'

lemma map_fst_takings (fuel : ℕ) (s : Planner width height) :
    (takings fuel s).map Prod.fst = trace fuel s := by
  induction fuel generalizing s with
  | zero => rfl
  | succ fuel ih =>
    rw [takings, trace]
    cases hs : s.step with
    | none => rfl
    | some r => simp [ih]

def above (c : Cell width height) (r : Entry width height × Costs) : Bool :=
  decide (r.1.cell = c) && decide (r.2.rhs < r.2.g)

def below (c : Cell width height) (r : Entry width height × Costs) : Bool :=
  decide (r.1.cell = c) && decide (r.2.g < r.2.rhs)

namespace Coherent

lemma round_of_step (h : s.Coherent ∅) (hs : s.step = some (e, s')) :
    ∃ x, e.key = Key.of x ∧ s.Round e.cell x s' := by
  obtain ⟨q, hp, -, -⟩ := step_eq_some.mp hs
  obtain ⟨x, hx, hheads⟩ := h.heads hp
  obtain ⟨hc, he, -⟩ := h.step hs
  exact ⟨x, hx, h, hc, hheads, he⟩

lemma le_takings (h : s.Coherent ∅) (hx : Key.Exact x) (hle : ∀ d y, s.Stored d y → x ≤ y) (fuel : ℕ) :
    ∀ r ∈ takings fuel s, (Key.of x).place ≤ r.1.key.place := by
  induction fuel generalizing s with
  | zero => exact fun r hr => (List.not_mem_nil hr).elim
  | succ fuel ih =>
    intro r hr
    rw [takings] at hr
    cases hs : s.step with
    | none =>
      rw [hs] at hr
      exact (List.not_mem_nil hr).elim
    | some a =>
      obtain ⟨e, s'⟩ := a
      rw [hs] at hr
      obtain ⟨z, hz, hround⟩ := h.round_of_step hs
      have hxz := hle _ _ hround.heads.stored
      rcases List.mem_cons.mp hr with rfl | hr
      · rw [hz, Key.place_of_le hx (hround.heads.stored.exact h.exact)]
        exact hxz
      · exact ih hround.after (fun d y hy => hxz.trans (hround.le_stored hy)) r hr

lemma pairwise_takings (h : s.Coherent ∅) (fuel : ℕ) :
    (takings fuel s).Pairwise fun a b => compare a.1.key b.1.key ≠ .gt := by
  induction fuel generalizing s with
  | zero => exact .nil
  | succ fuel ih =>
    rw [takings]
    cases hs : s.step with
    | none => exact .nil
    | some a =>
      obtain ⟨e, s'⟩ := a
      obtain ⟨x, hx, hround⟩ := h.round_of_step hs
      refine List.pairwise_cons.mpr ⟨fun r hr => ?_, ih hround.after⟩
      rw [ne_eq, Key.compare_eq_gt, not_lt, hx]
      exact hround.after.le_takings (hround.heads.stored.exact h.exact) (fun d y hy => hround.le_stored hy)
        fuel r hr

end Coherent

open scoped Classical in
noncomputable def overs (s : Planner width height) (c : Cell width height) : ℕ :=
  if s.Frozen c then 0 else 1

open scoped Classical in
noncomputable def unders (s : Planner width height) (c : Cell width height) : ℕ :=
  if s.Frozen c ∨ s.g c = ⊤ then 0 else 1

lemma overs_le_one (s : Planner width height) (c : Cell width height) : s.overs c ≤ 1 := by
  rw [overs]
  split <;> omega

lemma unders_le_one (s : Planner width height) (c : Cell width height) : s.unders c ≤ 1 := by
  rw [unders]
  split <;> omega

namespace Round

variable (h : s.Round u x s')

include h

lemma key_of_not_stale (hu : ¬s.Stale u) : x = s.key u := by
  by_contra hne
  exact hu ⟨x, h.heads.stored, hne⟩

lemma not_frozen : ¬s.Frozen u := fun hf => h.before.ne_of_stored h.heads.stored hf.1

lemma overs_le : s'.overs c ≤ s.overs c := by
  by_cases hf : s.Frozen c
  · rw [overs, if_pos (h.frozen hf)]
    exact Nat.zero_le _
  · rw [overs.eq_def s, if_neg hf]
    exact overs_le_one s' c

lemma unders_le (hc : c ≠ u) : s'.unders c ≤ s.unders c := by
  by_cases hf : s.Frozen c ∨ s.g c = ⊤
  · rw [unders, if_pos (hf.imp h.frozen fun hg => (h.g_of_ne hc).trans hg)]
    exact Nat.zero_le _
  · rw [unders.eq_def s, if_neg hf]
    exact unders_le_one s' c

lemma above_self (hu : ¬s.Stale u) (hover : s.rhs u < s.g u) :
    s.overs u = 1 ∧ s'.overs u = 0 ∧ s'.unders u = 0 := by
  have hf := h.frozen_self hover (h.key_of_not_stale hu)
  exact ⟨if_neg h.not_frozen, if_pos hf, if_pos (Or.inl hf)⟩

lemma below_self (hunder : s.g u < s.rhs u) : s.unders u = 1 ∧ s'.unders u = 0 := by
  have hg : s'.g u = ⊤ := by rw [h.expands.g, if_pos rfl, outcome, if_neg hunder.not_gt]
  exact ⟨if_neg (not_or.mpr ⟨h.not_frozen, hunder.ne_top⟩), if_pos (Or.inr hg)⟩

lemma overs_add (hc : ¬s.Stale c) :
    s'.overs c + (if u = c ∧ s.rhs u < s.g u then 1 else 0) ≤ s.overs c := by
  split
  · rename_i hcu
    obtain ⟨rfl, hover⟩ := hcu
    obtain ⟨hs, hs', -⟩ := h.above_self hc hover
    omega
  · exact h.overs_le

lemma unders_add (hc : ¬s.Stale c) :
    s'.unders c + (if u = c ∧ s.g u < s.rhs u then 1 else 0) ≤ s.unders c := by
  by_cases hcu : u = c
  · subst hcu
    rcases lt_or_gt_of_ne (h.before.ne_of_stored h.heads.stored) with hunder | hover
    · obtain ⟨hs, hs'⟩ := h.below_self hunder
      rw [if_pos ⟨rfl, hunder⟩, hs, hs']
    · obtain ⟨-, -, hs'⟩ := h.above_self hc hover
      rw [if_neg fun hcu => hcu.2.not_gt hover, hs']
      exact Nat.zero_le _
  · rw [if_neg fun hcu' => hcu hcu'.1]
    exact h.unders_le (Ne.symm hcu)

end Round

namespace Coherent

lemma above_eq (h : s.Coherent ∅) (e : Entry width height) :
    above c (e, s.costAt e.cell) = true ↔ e.cell = c ∧ s.rhs e.cell < s.g e.cell := by
  rw [above, Bool.and_eq_true, decide_eq_true_iff, decide_eq_true_iff, h.exact.costs,
    Cost.toFloat_lt (h.exact.rhs_exact _) (h.exact.g_exact _)]

lemma below_eq (h : s.Coherent ∅) (e : Entry width height) :
    below c (e, s.costAt e.cell) = true ↔ e.cell = c ∧ s.g e.cell < s.rhs e.cell := by
  rw [below, Bool.and_eq_true, decide_eq_true_iff, decide_eq_true_iff, h.exact.costs,
    Cost.toFloat_lt (h.exact.g_exact _) (h.exact.rhs_exact _)]

lemma countP_takings (h : s.Coherent ∅) (hc : ¬s.Stale c) (fuel : ℕ) :
    (takings fuel s).countP (above c) ≤ s.overs c ∧ (takings fuel s).countP (below c) ≤ s.unders c := by
  -- a cell above its lookahead is settled for good, and one below it has no estimate any more until it is
  -- settled
  induction fuel generalizing s with
  | zero => exact ⟨Nat.zero_le _, Nat.zero_le _⟩
  | succ fuel ih =>
    rw [takings]
    cases hs : s.step with
    | none => exact ⟨Nat.zero_le _, Nat.zero_le _⟩
    | some a =>
      obtain ⟨e, s'⟩ := a
      obtain ⟨x, -, hr⟩ := h.round_of_step hs
      obtain ⟨ha, hb⟩ := ih hr.after fun hst => hc (hr.stale hst)
      dsimp only
      rw [List.countP_cons, List.countP_cons]
      simp only [h.above_eq, h.below_eq]
      exact ⟨(Nat.add_le_add_right ha _).trans (hr.overs_add hc),
        (Nat.add_le_add_right hb _).trans (hr.unders_add hc)⟩

end Coherent

lemma Coherent.not_stale (h : s.Coherent ∅) (hc : s.Current Set.univ) (c : Cell width height) :
    ¬s.Stale c := by
  rintro ⟨x, hx, hne⟩
  have hkey := hc c (Set.mem_univ c) _ hx.queued
  rw [h.exact.keyOf_eq] at hkey
  exact hne (hx.unique (stored_key (hx.queued.trans (congrArg some hkey)) hx.finite) h.exact)

section Acts

lemma mem_altering (hw : altering added removed moveTo = .ok w) (hc : .move c ∈ w) :
    moveTo = some c.toPoint := by
  unfold altering at hw
  simp only [bind_eq_ok] at hw
  obtain ⟨start, hstart, as, -, rs, -, hw⟩ := hw
  obtain rfl := Except.ok.inj hw
  rcases List.mem_append.mp hc with hc | hc
  · cases start with
    | none => exact (List.not_mem_nil hc).elim
    | some d =>
      cases List.mem_singleton.mp hc
      exact (mapM_start_eq_ok.mp hstart).symm
  · rcases List.mem_append.mp hc with hc | hc
    · exact (still_changing true as _ hc c rfl).elim
    · exact (still_changing false rs _ hc c rfl).elim

lemma mem_script (hc : .move c ∈ s.script k) :
    ∃ added removed, k = .replan added removed (some c.toPoint) := by
  cases k with
  | plan => exact (still_searching _ _ _ hc c rfl).elim
  | replan added removed moveTo =>
    rw [script] at hc
    cases hw : (altering added removed moveTo : Except Error (List (Act width height))) with
    | error e =>
      rw [hw] at hc
      exact (List.not_mem_nil hc).elim
    | ok w =>
      rw [hw] at hc
      rcases List.mem_append.mp hc with hc | hc
      · exact ⟨added, removed, by rw [mem_altering hw hc]⟩
      · exact (still_searching _ _ _ hc c rfl).elim
  | search => exact (still_searching _ _ _ hc c rfl).elim
  | update d => exact (still_updates [d] _ hc c rfl).elim

lemma mem_history (hc : .move c ∈ s.history calls) :
    ∃ added removed, .replan added removed (some c.toPoint) ∈ calls := by
  induction calls generalizing s with
  | nil => exact (List.not_mem_nil hc).elim
  | cons k calls ih =>
    rcases List.mem_append.mp hc with hc | hc
    · obtain ⟨added, removed, rfl⟩ := mem_script hc
      exact ⟨added, removed, List.mem_cons_self⟩
    · obtain ⟨added, removed, hmem⟩ := ih hc
      exact ⟨added, removed, List.mem_cons_of_mem _ hmem⟩

lemma history_append (s : Planner width height) (calls : List (Call width height)) (k : Call width height) :
    s.history (calls ++ [k]) = s.history calls ++ (s.after calls).script k := by
  induction calls generalizing s with
  | nil => exact List.append_nil _
  | cons k' calls ih => rw [List.cons_append, history, ih, history, after, List.append_assoc]

lemma exists_run_searched (ht : s.searched k = some t) :
    ∃ w, t = s.run w ∧ ∀ a ∈ w, a ∈ s.script k := by
  cases k with
  | plan => exact ⟨[], (Option.some.inj ht).symm, fun a ha => (List.not_mem_nil ha).elim⟩
  | replan added removed moveTo =>
    rw [searched, altered_eq] at ht
    rw [script]
    cases hw : (altering added removed moveTo : Except Error (List (Act width height))) with
    | error e =>
      rw [hw] at ht
      cases ht
    | ok w =>
      rw [hw] at ht
      exact ⟨w, (Option.some.inj ht).symm, fun a ha => List.mem_append_left _ ha⟩
  | search => exact ⟨[], (Option.some.inj ht).symm, fun a ha => (List.not_mem_nil ha).elim⟩
  | update c => cases ht

lemma leaps_of_stay (hkm : s.km = Float.ofNat n) (hn : n < 2 ^ 53) (hw : ∀ c, .move c ∈ w → c = s.start) :
    s.leaps w = 0 ∧ (s.run w).start = s.start := by
  induction w generalizing s with
  | nil => exact ⟨rfl, rfl⟩
  | cons a w ih =>
    have ha : s.leap a = 0 ∧ (s.act a).start = s.start ∧ (s.act a).km = s.km := by
      by_cases hs : a.Still
      · obtain ⟨hstart, hkm', hleap⟩ := act_of_still (s := s) hs
        exact ⟨hleap, hstart, hkm'⟩
      · obtain ⟨c, hc⟩ := not_forall_not.mp hs
        subst hc
        obtain rfl := hw c List.mem_cons_self
        exact ⟨Point.manhattan_self _, rfl, congrArg Planner.km (move_self hkm hn)⟩
    obtain ⟨hleap, hstart, hkm'⟩ := ha
    obtain ⟨hleaps, hstart'⟩ := ih (hkm'.trans hkm) fun c hc =>
      (hw c (List.mem_cons_of_mem a hc)).trans hstart.symm
    exact ⟨by rw [leaps, hleap, hleaps], hstart'.trans hstart⟩

end Acts

def Stays (p : Point) (calls : List (Call width height)) : Prop :=
  ∀ added removed r, .replan added removed (some r) ∈ calls → r = p

lemma start_of_new (hnew : Planner.new width height p q obstacles limits = .ok s₀) : s₀.start.toPoint = p := by
  obtain ⟨-, start, goal, cs, hs, -, -, rfl⟩ := new_eq_ok.mp hnew
  rw [alike_fresh.start]
  exact hs

lemma km_of_new (hnew : Planner.new width height p q obstacles limits = .ok s₀) (hw : Within width height 0) :
    s₀.km = Float.ofNat 0 := by
  have hw₀ : Within width height (s₀.travelled []) := hw
  obtain ⟨-, h, hmoved, -⟩ := coherent_after hnew hw₀
  exact h.exact.km.trans (congrArg Float.ofNat hmoved)

namespace Stays

lemma eq_start (h : Stays p calls) (hs : s₀.start.toPoint = p) (hc : .move c ∈ s.history calls) :
    c = s₀.start := by
  obtain ⟨added, removed, hmem⟩ := mem_history hc
  exact Cell.toPoint_injective ((h added removed _ hmem).trans hs.symm)

lemma travelled (hnew : Planner.new width height p q obstacles limits = .ok s₀)
    (hw : Within width height 0) (h : Stays p calls) : s₀.travelled calls = 0 := by
  rw [← leaps_history]
  exact (leaps_of_stay (km_of_new hnew hw) (by norm_num) fun c hc => h.eq_start (start_of_new hnew) hc).1

lemma current (hnew : Planner.new width height p q obstacles limits = .ok s₀) (hw : Within width height 0)
    (h : Stays p (calls ++ [k])) (ht : (s₀.after calls).searched k = some t) : t.Current Set.univ := by
  obtain ⟨w, rfl, hmem⟩ := exists_run_searched ht
  rw [← run_history, ← run_append, ← Set.univ_union {c | .update c ∈ s₀.history calls ++ w}]
  refine (current_of_new hnew).run (km_of_new hnew hw) (by norm_num) fun c hc => ?_
  refine h.eq_start (s := s₀) (start_of_new hnew) ?_
  rw [history_append]
  rcases List.mem_append.mp hc with hc | hc
  · exact List.mem_append_left _ hc
  · exact List.mem_append_right _ (hmem _ hc)

end Stays

/-- As long as the robot stands still, whatever the map does: the keys that a search takes never fall,
and it takes a cell at most once from above its lookahead and at most once from below. With a factor of
at least two no search is cut short, and the answer is that of a planner made anew. -/
theorem search_of_stays (hnew : Planner.new width height p q obstacles limits = .ok s₀)
    (hw : Within width height 0) (calls : List (Call width height)) (k : Call width height)
    (hstays : Stays p (calls ++ [k])) (ht : (s₀.after calls).searched k = some t) :
    (∀ fuel, (takings fuel t).Pairwise (fun a b => compare a.1.key b.1.key ≠ .gt) ∧
      ∀ c, (takings fuel t).countP (above c) ≤ 1 ∧ (takings fuel t).countP (below c) ≤ 1 ∧
        ((takings fuel t).map fun r => r.1.cell).count c ≤ 2) ∧
    (2 ≤ limits.searchFactor →
      (∀ fuel, limits.searchCap width height ≤ fuel → searchFrom fuel 0 t = t.search) ∧
      ∀ a, ((s₀.after calls).call k).2 = some a → ∀ limits' : Limits, limits'.validate = .ok () →
        let s := ((s₀.after calls).call k).1
        ∃ s' : Planner width height,
          Planner.new width height s.start.toPoint s.goal.toPoint s.blockedPoints limits' = .ok s' ∧
            a.Same s'.plan.2) := by
  have hw' : Within width height (s₀.travelled (calls ++ [k])) := by rwa [hstays.travelled hnew hw]
  obtain ⟨hf, hc, hl⟩ := coherent_of_history hnew hw' ht
  have hstale := hc.not_stale (hstays.current hnew hw ht)
  refine ⟨fun fuel => ⟨hc.pairwise_takings fuel, fun c => ?_⟩, fun hfactor => ?_⟩
  · obtain ⟨ha, hb⟩ := hc.countP_takings (hstale c) fuel
    refine ⟨ha.trans (overs_le_one t c), hb.trans (unders_le_one t c), ?_⟩
    have hmap : ((takings fuel t).map fun r => r.1.cell) = (trace fuel t).map Entry.cell := by
      rw [← map_fst_takings, List.map_map]
      rfl
    rw [hmap]
    exact (hc.count_trace fuel c).trans (allowance_le_two (hstale c))
  · have hs : t.search.1.step = none := by
      refine settled_of_allowance hc (fun c => allowance_le_two (hstale c)) ?_
      rw [hl]
      exact hf.le_searchCap hfactor (by norm_num)
    refine ⟨fun fuel hfuel => ?_, fun a ha limits' hl' => ?_⟩
    · rw [search, hl]
      rw [search_eq, hl] at hs
      exact searchFrom_of_le hs hfuel
    · have hlike := Alike.search t
      have hr := plan_of_settled hc hs (by rw [hl]; exact hf.le_pathCap)
      have hf' : Feasible width height limits' := ⟨hf.nonempty, hl', hf.area⟩
      obtain ⟨s', hs', hp⟩ := exists_new hw hf' t.search.1
      dsimp only
      rw [(call_of_searched ht).2 a ha, (call_of_searched ht).1]
      rw [hlike.blocked, hlike.start, hlike.goal] at hp
      exact ⟨s', hs', Plan.same_of_route (hr.trans hp.symm)⟩

def vigil : List (Call 3 2) := [.plan, .replan [⟨1, 0⟩, ⟨1, 1⟩] [] none, .replan [] [⟨1, 1⟩] (some ⟨0, 0⟩)]

theorem search_after_vigil : ∃ s₀ t : Planner 3 2,
    Planner.new 3 2 ⟨0, 0⟩ ⟨2, 0⟩ [] = .ok s₀ ∧ Within 3 2 0 ∧ Stays ⟨0, 0⟩ (vigil ++ [.plan]) ∧
      (s₀.after vigil).searched .plan = some t ∧ 2 ≤ Limits.strict.searchFactor ∧
      ∃ a, ((s₀.after vigil).call .plan).2 = some a ∧ a.success = true ∧
        let s := ((s₀.after vigil).call .plan).1
        ∃ s' : Planner 3 2, Planner.new 3 2 s.start.toPoint s.goal.toPoint s.blockedPoints = .ok s' ∧
          a.Same s'.plan.2 := by
  have hnew : Planner.new 3 2 ⟨0, 0⟩ ⟨2, 0⟩ [] = .ok _ := rfl
  have hstays : Stays ⟨0, 0⟩ (vigil ++ [.plan]) := by
    intro added removed r hr
    simp [vigil] at hr
    exact hr.2.2
  refine ⟨_, _, hnew, by decide, hstays, rfl, by decide, _, rfl, by decide +kernel, ?_⟩
  exact (search_of_stays hnew (by decide) vigil .plan hstays rfl).2 (by decide) |>.2 _ rfl .strict rfl

end Navigation.Replanning.Planner
