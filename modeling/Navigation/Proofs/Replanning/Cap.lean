import Navigation.Proofs.Replanning.Answers
import Navigation.Proofs.Replanning.Ledger
import Navigation.Proofs.Search.Weighted

namespace Navigation.Replanning.Planner

open Search (Query)

variable {width height : ℕ} {s s₀ t : Planner width height} {c : Cell width height}
  {start goal : Cell width height} {blocked : Table height width Bool} {k : Call width height}
  {calls : List (Call width height)} {p q : Point} {obstacles : List Point}

def demand (s : Planner width height) : ℕ := (trace (3 * (width * height)) s).length

lemma settled_of_length_le {fuel n : ℕ} (h : (rest fuel s).step = none)
    (hn : (trace fuel s).length ≤ n) : (rest n s).step = none := by
  induction fuel generalizing s n with
  | zero => rwa [(rest_of_le h (Nat.zero_le n)).1]
  | succ fuel ih =>
    rw [rest] at h
    rw [trace] at hn
    cases hs : s.step with
    | none =>
      have hr : (rest 0 s).step = none := hs
      rwa [(rest_of_le hr (Nat.zero_le n)).1]
    | some p =>
      rw [hs] at h hn
      obtain ⟨n, rfl⟩ := Nat.exists_eq_add_of_lt (Nat.lt_of_lt_of_le (Nat.succ_pos _) hn)
      rw [zero_add] at hn ⊢
      rw [rest, hs]
      exact ih h (Nat.le_of_succ_le_succ hn)

namespace Coherent

lemma settled (h : t.Coherent ∅) : (Planner.rest (3 * (width * height)) t).step = none :=
  h.step_rest (sum_allowance_le (allowance_le t))

lemma uncut_iff (h : t.Coherent ∅) {n : ℕ} :
    (∀ fuel, n ≤ fuel → searchFrom fuel 0 t = searchFrom n 0 t) ↔ t.demand ≤ n := by
  constructor
  · intro hn
    obtain ⟨-, ht⟩ := rest_of_le h.settled (le_max_right n (3 * (width * height)))
    have heq := congrArg Prod.snd (hn _ (le_max_left n (3 * (width * height))))
    rw [searchFrom_eq, searchFrom_eq, ht] at heq
    have hle := length_trace_le n t
    rw [demand]
    omega
  · intro hn fuel hfuel
    exact searchFrom_of_le (settled_of_length_le h.settled hn) hfuel

lemma demand_le (h : t.Coherent ∅) : t.demand ≤ 2 * (width * height) + {c | t.Stale c}.ncard := by
  classical
  have hcount (c : Cell width height) :
      ((trace (3 * (width * height)) t).map Entry.cell).count c ≤ 2 + if t.Stale c then 1 else 0 := by
    refine (h.count_trace _ c).trans ?_
    split
    · exact allowance_le t c
    · rename_i hs
      exact allowance_le_two hs
  have hsum : ∑ c, ((trace (3 * (width * height)) t).map Entry.cell).count c = t.demand := by
    have hcard := Multiset.sum_count_eq_card (s := Finset.univ)
      (m := Multiset.ofList ((trace (3 * (width * height)) t).map Entry.cell))
      fun c _ => Finset.mem_univ c
    rw [Multiset.coe_card, List.length_map] at hcard
    simpa only [demand, Multiset.coe_count] using hcard
  rw [← hsum]
  refine (Finset.sum_le_sum fun c _ => hcount c).trans ?_
  rw [Finset.sum_add_distrib, Finset.sum_const, Finset.card_univ, Cell.card_eq, smul_eq_mul, mul_comm,
    ← Finset.card_filter, Set.ncard_eq_toFinset_card']
  simp

end Coherent

lemma agrees_of_route (hw : Within width height 0) {a : Plan} (h : a.route = bestRoute blocked start goal) :
    a.success = (Query.straight blocked start goal 1).plan.success ∧
      a.cost = (Query.straight blocked start goal 1).plan.cost := by
  have hroom : Search.Room width height 1 := by
    unfold Within at hw
    unfold Search.Room
    omega
  obtain ⟨hs, hc⟩ := Query.plan_straight hroom blocked start goal
  have hiff : a.success = true ↔ (Query.straight blocked start goal 1).plan.success = true := by
    rw [hs, ← isSome_bestRoute, ← h]
    rfl
  refine ⟨Bool.eq_iff_iff.mpr hiff, ?_⟩
  cases ha : a.success with
  | true =>
    obtain ⟨n, hn, hle, hge⟩ := hc (hiff.mp ha)
    have hn' : n = (roads blocked).dist start goal := by
      rw [max_self, one_mul] at hge
      omega
    rw [hn, hn', Plan.cost, h, bestRoute, if_pos (hs.mp (hiff.mp ha))]
    rfl
  | false =>
    have hb : (Query.straight blocked start goal 1).plan.success = false := by
      rw [← Bool.not_eq_true, ← hiff, ha]
      exact Bool.false_ne_true
    rw [Plan.success, Option.isSome_eq_false_iff, Option.isNone_iff_eq_none] at ha hb
    rw [Plan.cost, Plan.cost, ha, hb]

lemma searchCap_strict {limits : Limits} (hf : Feasible width height limits) :
    Limits.strict.searchCap width height = 2 * (width * height) := by
  have harea := hf.area_lt
  refine le_antisymm ?_ (le_scaled le_rfl (by omega))
  refine (min_le_left _ _).trans ?_
  rw [← mul_assoc]
  exact Nat.mul_le_mul_right height (min_le_left _ _)

/-- With the default limits, a search takes a cell a third time only if it was queued under an old key.
Where it needs no more than two rounds for each cell on the whole, and only there, it is not cut short
and the answer agrees with the best-first search. -/
theorem agrees_iff_demand_le (hnew : Planner.new width height p q obstacles = .ok s₀)
    (calls : List (Call width height)) (k : Call width height)
    (hw : Within width height (s₀.travelled (calls ++ [k])))
    (ht : (s₀.after calls).searched k = some t) :
    (∀ c, ((trace (3 * (width * height)) t).map Entry.cell).count c ≤ 3 ∧
      (¬ t.Stale c → ((trace (3 * (width * height)) t).map Entry.cell).count c ≤ 2)) ∧
    (rest (3 * (width * height)) t).step = none ∧
    t.demand ≤ 2 * (width * height) + {c | t.Stale c}.ncard ∧
    (((∀ fuel, 2 * (width * height) ≤ fuel → searchFrom fuel 0 t = t.search) ∧
      ∀ a, ((s₀.after calls).call k).2 = some a → let s := ((s₀.after calls).call k).1
        a.success = (Query.straight s.blocked s.start s.goal 1).plan.success ∧
          a.cost = (Query.straight s.blocked s.start s.goal 1).plan.cost) ↔
      t.demand ≤ 2 * (width * height)) := by
  obtain ⟨hf, hc, hl⟩ := coherent_of_history hnew hw ht
  have hsearch : t.search = searchFrom (2 * (width * height)) 0 t := by
    rw [← searchCap_strict hf]
    rw [search, hl]
    rfl
  refine ⟨fun c => ⟨(hc.count_trace _ c).trans (allowance_le t c), fun hs =>
    (hc.count_trace _ c).trans (allowance_le_two hs)⟩, hc.settled, hc.demand_le, ?_⟩
  rw [hsearch, hc.uncut_iff]
  refine and_iff_left_of_imp fun hd a ha => ?_
  have hs : t.search.1.step = none := by
    rw [hsearch, searchFrom_eq]
    exact settled_of_length_le hc.settled hd
  have hr := plan_of_settled hc hs (by rw [hl]; exact hf.le_pathCap)
  have hlike := Alike.search t
  rw [(call_of_searched ht).2 a ha, (call_of_searched ht).1]
  rw [← hlike.blocked, ← hlike.start, ← hlike.goal] at hr
  exact agrees_of_route (hw.mono (Nat.zero_le _)) hr

theorem agrees_after_errand : ∃ s₀ t : Planner 3 2,
    Planner.new 3 2 ⟨0, 0⟩ ⟨2, 0⟩ [] = .ok s₀ ∧ Within 3 2 (s₀.travelled (errand ++ [.plan])) ∧
      (s₀.after errand).searched .plan = some t ∧ t.demand ≤ 2 * (3 * 2) ∧
      ∀ a, ((s₀.after errand).call .plan).2 = some a → let s := ((s₀.after errand).call .plan).1
        a.success = (Query.straight s.blocked s.start s.goal 1).plan.success ∧
          a.cost = (Query.straight s.blocked s.start s.goal 1).plan.cost := by
  have hnew : Planner.new 3 2 ⟨0, 0⟩ ⟨2, 0⟩ [] = .ok _ := rfl
  have hdemand : ((fresh ⟨⟨0, 0⟩, by decide⟩ ⟨⟨2, 0⟩, by decide⟩ (marked []) .strict).after errand).demand ≤
      2 * (3 * 2) := by decide +kernel
  refine ⟨_, _, hnew, by decide +kernel, rfl, hdemand, ?_⟩
  exact ((agrees_iff_demand_le hnew errand .plan (by decide +kernel) rfl).2.2.2.mpr hdemand).2

section Shuttle

def trip (s : Planner width height) (added removed : List (Cell width height)) (c : Cell width height) :
    Planner width height :=
  removed.foldl (change false) (added.foldl (change true) (s.search.1.move c))

lemma start_trip (s : Planner width height) (added removed : List (Cell width height)) :
    (s.trip added removed c).start = c := by
  rw [trip, (foldl_change_eq false _ _).1, (foldl_change_eq true _ _).1]
  rfl

lemma goal_trip (s : Planner width height) (added removed : List (Cell width height)) :
    (s.trip added removed c).goal = s.goal := by
  rw [trip, (foldl_change_eq false _ _).2.1, (foldl_change_eq true _ _).2.1]
  exact (Alike.search s).goal

lemma blocked_trip (s : Planner width height) (added removed : List (Cell width height)) :
    (s.trip added removed c).blocked = removed.foldl (fun t c => t.put c false)
      (added.foldl (fun t c => t.put c true) s.blocked) := by
  have hs : (s.search.1.move c).blocked = s.blocked := (Alike.search s).blocked
  rw [trip, blocked_foldl_change, blocked_foldl_change, hs]

lemma call_trip (s : Planner width height) {added removed : List Point}
    {as rs : List (Cell width height)} {p : Point} (has : as.map Cell.toPoint = added)
    (hrs : rs.map Cell.toPoint = removed) (hp : c.toPoint = p) :
    (s.search.1.call (.replan added removed (some p))).1 = (s.trip as rs c).search.1 ∧
      (s.search.1.call (.replan added removed (some p))).2 = some (s.trip as rs c).plan.2 := by
  subst has hrs hp
  have h := call_of_altered (altered_of_cells s.search.1 as rs c)
  exact ⟨congrArg Prod.fst h, congrArg Prod.snd h⟩

lemma Coherent.trip (h : s.Coherent ∅) (added removed : List (Cell width height))
    (c : Cell width height) (hw : Within width height (s.moved + (width + height))) :
    (s.trip added removed c).Coherent ∅ ∧
      (s.trip added removed c).moved ≤ s.moved + (width + height) ∧
      (s.trip added removed c).ledger = s.ledger.trip added removed c := by
  have ha := Alike.search s
  have hm := s.search.1.start.manhattan_lt c
  have hmove : Within width height
      (s.search.1.moved + s.search.1.start.toPoint.manhattan c.toPoint) :=
    hw.mono (by rw [ha.moved]; omega)
  obtain ⟨hc, hmoved⟩ := h.search.move c hmove
  have hadd := hc.foldl_change true added
  refine ⟨hadd.foldl_change false removed, ?_, ?_⟩
  · have hkm : (s.trip added removed c).moved = (s.search.1.move c).moved :=
      (moved_congr (foldl_change_eq false _ _).2.2.1).trans
        (moved_congr (foldl_change_eq true _ _).2.2.1)
    rw [hkm, hmoved, ha.moved]
    omega
  · rw [Planner.trip, hadd.ledger_foldl_change, hc.ledger_foldl_change, h.search.ledger_move hmove,
      h.ledger_search, Ledger.trip]

lemma route_after_trips {limits : Limits} (hw : Within width height (2 * (width + height)))
    (added removed added' removed' : List (Cell width height)) (c c' : Cell width height) :
    (((fresh start goal blocked limits).trip added removed c).trip added' removed' c').plan.2.route =
      (((Ledger.fresh start goal blocked limits).trip added removed c).trip added' removed'
        c').search.extract.map fun r => ⟨r.1, Cost.toFloat r.2⟩ := by
  have hw₀ : Within width height 0 := hw.mono (Nat.zero_le _)
  have hmoved : (fresh start goal blocked limits).moved = 0 := moved_update.trans moved_blank
  have hf : (fresh start goal blocked limits).Coherent ∅ := coherent_fresh hw₀
  obtain ⟨h, hm, hl⟩ := hf.trip added removed c (hw.mono (by rw [hmoved]; omega))
  obtain ⟨h', -, hl'⟩ := h.trip added' removed' c' (hw.mono (by rw [hmoved] at hm; omega))
  rw [h'.route_plan, hl', hl, ledger_fresh hw₀]

def walls : List Point :=
  [⟨1, 0⟩, ⟨3, 0⟩, ⟨5, 0⟩, ⟨7, 0⟩, ⟨9, 0⟩, ⟨10, 0⟩, ⟨10, 1⟩, ⟨11, 1⟩, ⟨1, 2⟩, ⟨3, 2⟩, ⟨5, 2⟩,
    ⟨7, 2⟩, ⟨11, 2⟩]

def gates : List Point := [⟨11, 0⟩, ⟨2, 1⟩, ⟨4, 1⟩]

def shuttle : List (Call 12 3) := [.plan, .replan (gates ++ [⟨9, 2⟩]) walls (some ⟨10, 1⟩)]

def homeward : Call 12 3 := .replan [⟨10, 1⟩] gates (some ⟨0, 2⟩)

def walled : Planner 12 3 :=
  fresh ⟨⟨5, 2⟩, by decide⟩ ⟨⟨10, 2⟩, by decide⟩ (marked (cells walls)) .strict

def atFarEnd : Planner 12 3 :=
  walled.trip (cells (gates ++ [⟨9, 2⟩])) (cells walls) ⟨⟨10, 1⟩, by decide⟩

def atHome : Planner 12 3 :=
  atFarEnd.trip (cells [⟨10, 1⟩]) (cells gates) ⟨⟨0, 2⟩, by decide⟩

lemma new_walled : Planner.new 12 3 ⟨5, 2⟩ ⟨10, 2⟩ walls = .ok walled :=
  new_eq_ok.mpr ⟨⟨by decide, rfl, _, rfl⟩, _, _, cells walls, rfl, rfl,
    toPoint_cells _ (by decide), rfl⟩

lemma after_shuttle (s : Planner 12 3) : s.after shuttle =
    (s.search.1.call (.replan (gates ++ [⟨9, 2⟩]) walls (some ⟨10, 1⟩))).1 := rfl

lemma call_homeward : ((walled.after shuttle).call homeward).1 = atHome.search.1 ∧
    ((walled.after shuttle).call homeward).2 = some atHome.plan.2 := by
  have hout := (walled.call_trip (c := ⟨⟨10, 1⟩, by decide⟩)
    (toPoint_cells (gates ++ [⟨9, 2⟩]) (by decide))
    (toPoint_cells walls (by decide)) rfl).1
  rw [after_shuttle, hout]
  exact atFarEnd.call_trip (toPoint_cells _ (by decide)) (toPoint_cells _ (by decide)) rfl

lemma blocked_atHome : atHome.blocked = marked (cells [⟨10, 1⟩, ⟨9, 2⟩]) := by
  have hwalled : walled.blocked = marked (cells walls) := alike_fresh.blocked
  rw [atHome, blocked_trip, atFarEnd, blocked_trip, hwalled]
  decide +kernel

lemma success_hall : (Query.straight (marked (cells [⟨10, 1⟩, ⟨9, 2⟩]) : Table 3 12 Bool)
    ⟨⟨0, 2⟩, by decide⟩ ⟨⟨10, 2⟩, by decide⟩ 1).plan.success = true := by
  refine (Query.plan_straight (by unfold Search.Room; decide) _ _ _).1.mpr ⟨by decide, by decide, ?_⟩
  exact roads.reachable_of_isChain (cells [⟨0, 1⟩, ⟨0, 0⟩, ⟨1, 0⟩, ⟨2, 0⟩, ⟨3, 0⟩, ⟨4, 0⟩, ⟨5, 0⟩,
    ⟨6, 0⟩, ⟨7, 0⟩, ⟨8, 0⟩, ⟨9, 0⟩, ⟨10, 0⟩, ⟨11, 0⟩, ⟨11, 1⟩, ⟨11, 2⟩, ⟨10, 2⟩])
    (by decide +kernel) (by decide +kernel)

lemma goal_atHome : atHome.goal = ⟨⟨10, 2⟩, by decide⟩ := by
  have hgoal : walled.goal = ⟨⟨10, 2⟩, by decide⟩ := alike_fresh.goal
  rw [atHome, goal_trip, atFarEnd, goal_trip, hgoal]

lemma not_success_atHome : atHome.plan.2.success = false := by
  have hextract : (((Ledger.fresh ⟨⟨5, 2⟩, by decide⟩ ⟨⟨10, 2⟩, by decide⟩ (marked (cells walls))
      .strict).trip (cells (gates ++ [⟨9, 2⟩])) (cells walls) ⟨⟨10, 1⟩, by decide⟩).trip
        (cells [⟨10, 1⟩]) (cells gates) (⟨⟨0, 2⟩, by decide⟩ : Cell 12 3)).search.extract = none := by
    decide +kernel
  rw [Plan.success, atHome, atFarEnd, walled, route_after_trips (by decide), hextract]
  rfl

theorem cut_short_homeward : ∃ (s₀ : Planner 12 3) (a : Plan),
    Planner.new 12 3 ⟨5, 2⟩ ⟨10, 2⟩ walls = .ok s₀ ∧
      Within 12 3 (s₀.travelled (shuttle ++ [homeward])) ∧
      ((s₀.after shuttle).call homeward).2 = some a ∧ a.success = false ∧
      let s := ((s₀.after shuttle).call homeward).1
      (Query.straight s.blocked s.start s.goal 1).plan.success = true := by
  have hw : Within 12 3 (walled.travelled (shuttle ++ [homeward])) :=
    Within.mono (by decide) (walled.travelled_le (shuttle ++ [homeward]))
  have hlike := Alike.search atHome
  have hstart : atHome.start = ⟨⟨0, 2⟩, by decide⟩ := atFarEnd.start_trip _ _
  refine ⟨walled, atHome.plan.2, new_walled, hw, call_homeward.2, not_success_atHome, ?_⟩
  dsimp only
  rw [call_homeward.1, hlike.blocked, hlike.start, hlike.goal, blocked_atHome, hstart, goal_atHome]
  exact success_hall

end Shuttle

end Navigation.Replanning.Planner
