import Navigation.Proofs.Replanning.Calls

namespace Navigation.Replanning.Planner

variable {width height : ℕ} {s s₀ t : Planner width height} {c d : Cell width height}
  {start goal : Cell width height} {blocked : Table height width Bool} {limits limits' : Limits}
  {k : Call width height} {calls : List (Call width height)} {p q : Point} {obstacles : List Point}

lemma greatest_eq : Word.greatest = 2 ^ 64 - 1 := rfl

lemma le_scaled {m f : ℕ} (hm : m ≤ f) (h : m * (width * height) < 2 ^ 64) :
    m * (width * height) ≤ Limits.scaled f width height := by
  have hg := greatest_eq
  rw [Limits.scaled, Word.saturatingMul, Word.saturatingMul]
  refine le_min ?_ (by omega)
  rcases le_total (f * width) Word.greatest with hle | hle
  · rw [min_eq_left hle, ← mul_assoc]
    exact Nat.mul_le_mul_right height (Nat.mul_le_mul_right width hm)
  · rw [min_eq_right hle]
    rcases Nat.eq_zero_or_pos height with rfl | hpos
    · rw [mul_zero, mul_zero]
      exact Nat.zero_le _
    · exact le_trans (by omega) (Nat.le_mul_of_pos_right _ hpos)

namespace Feasible

lemma area_lt (h : Feasible width height limits) : 16 * (width * height) < 2 ^ 63 := by
  obtain ⟨n, hn⟩ := h.area
  rw [Word.area] at hn
  simp only [bind_eq_ok] at hn
  obtain ⟨m, hm, _, hr, -⟩ := hn
  have hmul : width * height = m := by
    unfold Word.mul at hm
    split at hm
    · exact Except.ok.inj hm
    · cases hm
  have hhalf : Word.half = 2 ^ 63 := rfl
  unfold Word.room at hr
  split at hr
  · rename_i hlt
    rwa [cellBytes, hhalf, ← hmul] at hlt
  · cases hr

lemma factors_pos (h : Feasible width height limits) : 1 ≤ limits.searchFactor ∧ 1 ≤ limits.pathFactor := by
  have hl := h.limits
  unfold Limits.validate at hl
  split at hl
  · cases hl
  · split at hl
    · cases hl
    · omega

lemma le_searchCap (h : Feasible width height limits) {m : ℕ} (hm : m ≤ limits.searchFactor) (hm' : m ≤ 3) :
    m * (width * height) ≤ limits.searchCap width height := by
  have harea := h.area_lt
  have hle := Nat.mul_le_mul_right (width * height) hm'
  exact le_scaled hm (by omega)

lemma le_pathCap (h : Feasible width height limits) : width * height ≤ limits.pathCap width height := by
  have harea := h.area_lt
  have hle : 1 * (width * height) ≤ limits.pathCap width height := le_scaled h.factors_pos.2 (by omega)
  rwa [one_mul] at hle

lemma of_within (hw : 0 < width) (hh : 0 < height) (hl : limits.validate = .ok ())
    (h : Within width height 0) : Feasible width height limits where
  nonempty hz := by omega
  limits := hl
  area := by
    unfold Within at h
    have hbound : Word.bound = 2 ^ 64 := rfl
    have hhalf : Word.half = 2 ^ 63 := rfl
    have hmul : Word.mul width height = .ok (width * height) := if_pos (by omega)
    have hroom : Word.room cellBytes (width * height) = .ok () := if_pos (by rw [cellBytes]; omega)
    refine ⟨width * height, ?_⟩
    rw [Word.area, hmul]
    change (Word.room cellBytes (width * height) >>= fun _ => pure (width * height)) = _
    rw [hroom]
    rfl

end Feasible

lemma plan_of_settled (h : t.Coherent ∅) (hs : t.search.1.step = none)
    (hcap : width * height ≤ t.limits.pathCap width height) :
    t.plan.2.route = bestRoute t.blocked t.start t.goal := by
  have ha := Alike.search t
  have he := extract_eq h.search (h.search.frozen_start hs) (by rwa [ha.limits])
  rw [ha.blocked, ha.start, ha.goal] at he
  exact he

lemma not_stale_fresh (hw : Within width height 0) : ¬ (fresh start goal blocked limits).Stale c := by
  rintro ⟨x, hx, hne⟩
  have hb : (blank start goal blocked limits).Coherent {goal} := coherent_blank hw
  have hr := hb.refreshes_update goal
  by_cases hc : c = goal
  · have hkey := hr.fresh c (by simp [hc]) _ hx.queued
    have hf : (fresh start goal blocked limits).Coherent ∅ := coherent_fresh hw
    exact hne (hx.unique (stored_key (by rw [hx.queued, hkey]; rfl) hx.finite) hf.exact)
  · have hq := hr.queued c (by simp [hc])
    have hnone : (blank start goal blocked limits).queued c = none := Table.lookup_uniform none c
    cases (hnone.symm.trans hq.symm).trans hx.queued

lemma allowance_fresh (hw : Within width height 0) : (fresh start goal blocked limits).allowance c ≤ 1 :=
  allowance_le_one (not_stale_fresh hw) g_fresh

lemma sum_allowance_le {m : ℕ} (h : ∀ c, s.allowance c ≤ m) :
    ∑ c, s.allowance c ≤ m * (width * height) := by
  have hle := Finset.sum_le_card_nsmul Finset.univ s.allowance m fun c _ => h c
  rwa [Finset.card_univ, Cell.card_eq, smul_eq_mul, mul_comm] at hle

lemma settled_of_allowance (h : s.Coherent ∅) {m : ℕ} (hm : ∀ c, s.allowance c ≤ m)
    (hcap : m * (width * height) ≤ s.limits.searchCap width height) : s.search.1.step = none := by
  rw [search_eq]
  exact h.step_rest ((sum_allowance_le hm).trans hcap)

lemma settled_fresh (hw : Within width height 0) (hf : Feasible width height limits) :
    (fresh start goal blocked limits).search.1.step = none := by
  refine settled_of_allowance (coherent_fresh hw) (fun c => allowance_fresh hw) ?_
  rw [limits_fresh]
  exact hf.le_searchCap hf.factors_pos.1 (by omega)

lemma plan_fresh (hw : Within width height 0) (hf : Feasible width height limits) :
    (fresh start goal blocked limits).plan.2.route = bestRoute blocked start goal := by
  have hcap : width * height ≤ (fresh start goal blocked limits).limits.pathCap width height := by
    rw [limits_fresh]
    exact hf.le_pathCap
  have hr := plan_of_settled (coherent_fresh hw) (settled_fresh hw hf) hcap
  rwa [alike_fresh.blocked, alike_fresh.start, alike_fresh.goal] at hr

lemma new_of_planner (hf : Feasible width height limits) (t : Planner width height) :
    Planner.new width height t.start.toPoint t.goal.toPoint t.blockedPoints limits =
      .ok (fresh t.start t.goal t.blocked limits) := by
  let every : List (Cell width height) :=
    (List.finRange width).flatMap fun (x : Fin width) =>
      (List.finRange height).map fun (y : Fin height) => ⟨⟨x, y⟩, x.isLt, y.isLt⟩
  have hmem (c : Cell width height) : c ∈ every :=
    List.mem_flatMap.mpr ⟨c.col, List.mem_finRange _, List.mem_map.mpr ⟨c.row, List.mem_finRange _, rfl⟩⟩
  have hmarked : marked (every.filter t.blocked.lookup) = t.blocked := by
    refine Table.ext_lookup fun c => ?_
    rw [lookup_marked]
    simp [hmem c]
  refine new_eq_ok.mpr ⟨hf, t.start, t.goal, every.filter t.blocked.lookup, rfl, rfl, rfl, ?_⟩
  rw [hmarked]

lemma exists_new (hw : Within width height 0) (hf : Feasible width height limits)
    (t : Planner width height) : ∃ t' : Planner width height,
      Planner.new width height t.start.toPoint t.goal.toPoint t.blockedPoints limits = .ok t' ∧
        t'.plan.2.route = bestRoute t.blocked t.start t.goal :=
  ⟨_, new_of_planner hf t, plan_fresh hw hf⟩

lemma coherent_after (hnew : Planner.new width height p q obstacles limits = .ok s₀)
    (hw : Within width height (s₀.travelled calls)) : Feasible width height limits ∧
      (s₀.after calls).Coherent ∅ ∧ (s₀.after calls).moved = s₀.travelled calls ∧
      (s₀.after calls).limits = limits := by
  obtain ⟨hf, start, goal, cs, -, -, -, rfl⟩ := new_eq_ok.mp hnew
  have hmoved : (fresh start goal (marked cs) limits).moved = 0 := moved_update.trans moved_blank
  have hlimits : (fresh start goal (marked cs) limits).limits = limits := limits_fresh
  have hfresh : (fresh start goal (marked cs) limits).Coherent ∅ := coherent_fresh (hw.mono (Nat.zero_le _))
  obtain ⟨hc, hm, -, hl⟩ := hfresh.after (by rwa [hmoved, zero_add])
  rw [hmoved, zero_add] at hm
  exact ⟨hf, hc, hm, hl.trans hlimits⟩

lemma coherent_of_history (hnew : Planner.new width height p q obstacles limits = .ok s₀)
    (hw : Within width height (s₀.travelled (calls ++ [k]))) (ht : (s₀.after calls).searched k = some t) :
    Feasible width height limits ∧ t.Coherent ∅ ∧ t.limits = limits := by
  rw [travelled_append] at hw
  obtain ⟨hf, hc, hm, hl⟩ := coherent_after hnew (hw.mono (Nat.le_add_right _ _))
  obtain ⟨htc, -, -, htl⟩ := hc.searched ht (by rwa [hm])
  exact ⟨hf, htc, htl.trans hl⟩

/-- Whatever has happened before: if the search of a call has not used up its rounds, the answer is that
of a planner made anew, and it is the best there is. -/
theorem answer_of_explored_lt (hnew : Planner.new width height p q obstacles limits = .ok s₀)
    (calls : List (Call width height)) (k : Call width height)
    (hw : Within width height (s₀.travelled (calls ++ [k]))) {a : Plan}
    (ha : ((s₀.after calls).call k).2 = some a)
    (hlt : a.explored < limits.searchCap width height) :
    let s := ((s₀.after calls).call k).1
    (∃ s' : Planner width height,
      Planner.new width height s.start.toPoint s.goal.toPoint s.blockedPoints = .ok s' ∧
        a.Same s'.plan.2) ∧ a.Optimal s.blocked s.start s.goal := by
  obtain ⟨t, ht, rfl⟩ := searched_of_answer ha
  obtain ⟨hf, hc, hl⟩ := coherent_of_history hnew hw ht
  have hs : t.search.1.step = none := by
    change t.search.2 < _ at hlt
    rw [search_eq, hl] at hlt
    rw [search_eq, hl]
    exact step_rest_of_lt hlt
  have hr := plan_of_settled hc hs (by rw [hl]; exact hf.le_pathCap)
  have hlike := Alike.search t
  dsimp only
  rw [(call_of_searched ht).1]
  rw [← hlike.blocked, ← hlike.start, ← hlike.goal] at hr
  have hf' : Feasible width height default := ⟨hf.nonempty, rfl, hf.area⟩
  obtain ⟨s', hs', hp⟩ := exists_new (hw.mono (Nat.zero_le _)) hf' t.search.1
  exact ⟨⟨s', hs', Plan.same_of_route (hr.trans hp.symm)⟩, Plan.optimal_of_route hr⟩

def errand : List (Call 3 2) := [.plan, .replan [⟨1, 0⟩] [] (some ⟨0, 1⟩)]

theorem answer_after_errand : ∃ s₀ : Planner 3 2,
    Planner.new 3 2 ⟨0, 0⟩ ⟨2, 0⟩ [] = .ok s₀ ∧ Within 3 2 (s₀.travelled (errand ++ [.plan])) ∧
      ∃ a, ((s₀.after errand).call .plan).2 = some a ∧ a.explored < Limits.strict.searchCap 3 2 ∧
        a.success = true ∧ let s := ((s₀.after errand).call .plan).1
        (∃ s' : Planner 3 2, Planner.new 3 2 s.start.toPoint s.goal.toPoint s.blockedPoints = .ok s' ∧
          a.Same s'.plan.2) ∧ a.Optimal s.blocked s.start s.goal := by
  have hnew : Planner.new 3 2 ⟨0, 0⟩ ⟨2, 0⟩ [] = .ok _ := rfl
  refine ⟨_, hnew, by decide +kernel, _, rfl, by decide +kernel, by decide +kernel, ?_⟩
  exact answer_of_explored_lt hnew errand .plan (by decide +kernel) rfl (by decide +kernel)

/-- With a factor of at least three no search is cut short: it takes no cell more than three times, more
rounds would change nothing, and the answer is that of a planner made anew. -/
theorem search_of_three_le (hnew : Planner.new width height p q obstacles limits = .ok s₀)
    (hfactor : 3 ≤ limits.searchFactor) (calls : List (Call width height)) (k : Call width height)
    (hw : Within width height (s₀.travelled (calls ++ [k])))
    (ht : (s₀.after calls).searched k = some t) :
    (∀ c, ((trace (limits.searchCap width height) t).map Entry.cell).count c ≤ 3) ∧
      (∀ fuel, limits.searchCap width height ≤ fuel → searchFrom fuel 0 t = t.search) ∧
      ∀ a, ((s₀.after calls).call k).2 = some a → ∀ limits' : Limits, limits'.validate = .ok () →
        ∃ s' : Planner width height,
          Planner.new width height t.start.toPoint t.goal.toPoint t.blockedPoints limits' = .ok s' ∧
            a.Same s'.plan.2 := by
  obtain ⟨hf, hc, hl⟩ := coherent_of_history hnew hw ht
  have hs : t.search.1.step = none := by
    refine settled_of_allowance hc (allowance_le t) ?_
    rw [hl]
    exact hf.le_searchCap hfactor le_rfl
  refine ⟨fun c => (hc.count_trace _ c).trans (allowance_le t c), fun fuel hfuel => ?_, ?_⟩
  · rw [search, hl]
    rw [search_eq, hl] at hs
    exact searchFrom_of_le hs hfuel
  · intro a ha limits' hl'
    have hf' : Feasible width height limits' := ⟨hf.nonempty, hl', hf.area⟩
    obtain ⟨s', hs', hp⟩ := exists_new (hw.mono (Nat.zero_le _)) hf' t
    have hr := plan_of_settled hc hs (by rw [hl]; exact hf.le_pathCap)
    rw [(call_of_searched ht).2 a ha]
    exact ⟨s', hs', Plan.same_of_route (hr.trans hp.symm)⟩

theorem search_after_errand : ∃ s₀ t : Planner 3 2,
    Planner.new 3 2 ⟨0, 0⟩ ⟨2, 0⟩ [] Limits.relaxed = .ok s₀ ∧ 3 ≤ Limits.relaxed.searchFactor ∧
      Within 3 2 (s₀.travelled (errand ++ [.plan])) ∧ (s₀.after errand).searched .plan = some t ∧
      ∀ c, ((trace (Limits.relaxed.searchCap 3 2) t).map Entry.cell).count c ≤ 3 := by
  have hnew : Planner.new 3 2 ⟨0, 0⟩ ⟨2, 0⟩ [] Limits.relaxed = .ok _ := rfl
  refine ⟨_, _, hnew, by decide, by decide +kernel, rfl, ?_⟩
  exact (search_of_three_le hnew (by decide) errand .plan (by decide +kernel) rfl).1

/-- The first plan of a new planner takes no cell twice, is not cut short whatever the limits, and is
the best there is. -/
theorem plan_of_new (hwidth : 0 < width) (hheight : 0 < height) (hp : p.Inside width height)
    (hq : q.Inside width height) (hobstacles : ∀ o ∈ obstacles, o.Inside width height)
    (hlimits : limits.validate = .ok ()) (hw : Within width height 0) :
    ∃ s : Planner width height, Planner.new width height p q obstacles limits = .ok s ∧
      s.start.toPoint = p ∧ s.goal.toPoint = q ∧
      (∀ c, s.blocked.lookup c = true ↔ c.toPoint ∈ obstacles) ∧
      ((trace (limits.searchCap width height) s).map Entry.cell).Nodup ∧
      s.plan.2.explored ≤ width * height ∧
      (∀ fuel, limits.searchCap width height ≤ fuel → searchFrom fuel 0 s = s.search) ∧
      s.plan.2.Optimal s.blocked s.start s.goal := by
  have hf := Feasible.of_within hwidth hheight hlimits hw
  have hcells := toPoint_cells obstacles hobstacles
  let s : Planner width height := fresh ⟨p, hp⟩ ⟨q, hq⟩ (marked (cells obstacles)) limits
  have hl : s.limits = limits := limits_fresh
  have hc : s.Coherent ∅ := coherent_fresh hw
  have hs : s.search.1.step = none := settled_fresh hw hf
  have hnodup : ((trace (limits.searchCap width height) s).map Entry.cell).Nodup :=
    List.nodup_iff_count_le_one.mpr fun c => (hc.count_trace _ c).trans (allowance_fresh hw)
  refine ⟨s, new_eq_ok.mpr ⟨hf, _, _, cells obstacles, rfl, rfl, hcells, rfl⟩, ?_, ?_, fun c => ?_,
    hnodup, ?_, fun fuel hfuel => ?_, ?_⟩
  · rw [alike_fresh.start]
    rfl
  · rw [alike_fresh.goal]
    rfl
  · have hb : s.blocked = marked (cells obstacles) := alike_fresh.blocked
    have hmem : c ∈ cells obstacles ↔ c.toPoint ∈ (cells obstacles).map Cell.toPoint :=
      (List.mem_map_of_injective Cell.toPoint_injective).symm
    rw [hb, lookup_marked, decide_eq_true_iff, hmem, hcells]
  · change s.search.2 ≤ _
    rw [search_eq, hl]
    dsimp only
    rw [← List.length_map (f := Entry.cell), ← Cell.card_eq]
    exact hnodup.length_le_card
  · rw [search, hl]
    rw [search_eq, hl] at hs
    exact searchFrom_of_le hs hfuel
  · exact Plan.optimal_of_route (plan_of_settled hc hs (by rw [hl]; exact hf.le_pathCap))

theorem plan_of_new_walled : ∃ s : Planner 3 2,
    Planner.new 3 2 ⟨0, 0⟩ ⟨2, 0⟩ [⟨1, 0⟩] ⟨1, 1⟩ = .ok s ∧ s.plan.2.success = true ∧
      s.plan.2.explored ≤ 3 * 2 ∧ s.plan.2.Optimal s.blocked s.start s.goal := by
  obtain ⟨s, hs, -, -, -, -, he, -, ho⟩ := @plan_of_new 3 2 ⟨1, 1⟩ ⟨0, 0⟩ ⟨2, 0⟩ [⟨1, 0⟩] (by decide)
    (by decide) (by decide) (by decide) (by decide) rfl (by decide +kernel)
  have hnew : Planner.new 3 2 ⟨0, 0⟩ ⟨2, 0⟩ [⟨1, 0⟩] ⟨1, 1⟩ = .ok _ := rfl
  rw [hnew] at hs
  obtain rfl := Except.ok.inj hs
  exact ⟨_, hnew, by decide +kernel, he, ho⟩

end Navigation.Replanning.Planner
