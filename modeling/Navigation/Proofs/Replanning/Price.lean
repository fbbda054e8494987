import Navigation.Proofs.Replanning.Cap
import Navigation.Proofs.Replanning.Descent

/-! What the cost of an answer says about its path. -/

namespace Navigation.Replanning.Planner

variable {width height : ℕ} {s s₀ : Planner width height} {c d : Cell width height}
  {l : List (Cell width height)} {limits : Limits} {k : Call width height} {p q : Point}
  {obstacles : List Point}

namespace Tidy

variable (h : s.Tidy ∅)

include h

lemma number_rhs (hc : c ≠ s.goal) (hf : s.isFree c = true) (hb : s.bestNeighbor c = some d) :
    number (s.costAt c).rhs = Cost.next (s.level d) := by
  have htally (e : Cell width height) : Tally ((s.costAt e).g + stepCost) := (h.tally e).1.succ
  have hnumber (e : Cell width height) :
      number ((s.costAt e).g + stepCost) = Cost.next (s.level e) := (h.tally e).1.number_succ
  have hrhs : (s.costAt c).rhs = s.throughNeighbors c := by
    rw [h.rhs c (Set.notMem_empty c), lookahead, if_neg hc, if_pos hf]
  obtain ⟨hd, hall⟩ := h.bestNeighbor_eq_some hb
  have hoffer : (s.costAt d).g + stepCost ∈ s.offers c := List.mem_map.mpr ⟨d, hd, rfl⟩
  rcases least_throughNeighbors (fun e => (h.tally e).1) c with ⟨-, hnil⟩ | ⟨hmem, hleast⟩
  · rw [hnil] at hoffer
    cases hoffer
  · obtain ⟨e, he, heq⟩ := List.mem_map.mp hmem
    have hle := hleast _ hoffer
    rw [← heq, (htally e).le_iff (htally d), hnumber, hnumber] at hle
    rw [hrhs, ← heq, hnumber]
    exact le_antisymm hle (Cost.next_mono (hall e he))

lemma consistent_iff_level (hcd : s.Downhill c d) (hf : s.isFree c = true) (ht : s.level c ≠ ⊤) :
    (s.costAt c).consistent = true ↔ s.level c = s.level d + 1 := by
  have hlt : s.level d < s.level c := h.lt_iff.mp hcd.lt
  have hheld : Cost.Held (s.level c) := (h.tally c).1.held_number
  rw [Costs.consistent, (h.tally c).1.beq_iff (h.tally c).2, h.number_rhs hcd.ne hf hcd.best,
    Cost.next_of_lt hlt hheld ht]
  rfl

lemma consistent_goal : (s.costAt s.goal).consistent = true ↔ s.level s.goal = 0 := by
  rw [Costs.consistent, (h.tally _).1.beq_iff (h.tally _).2, h.goal, Tally.number_zero]
  rfl

lemma length_le_level (hl : (c :: l).IsChain s.Downhill) : (l.length : ℕ∞) ≤ s.level c := by
  induction l generalizing c with
  | nil => exact zero_le
  | cons d l ih =>
    obtain ⟨hcd, hl⟩ := List.isChain_cons_cons.mp hl
    rw [List.length_cons, Nat.cast_add, Nat.cast_one]
    exact (add_le_add_left (ih hl) 1).trans (Order.add_one_le_of_lt (h.lt_iff.mp hcd.lt))

lemma level_eq_length_iff (hl : (c :: l).IsChain s.Downhill) (hlast : (c :: l).getLast? = some s.goal)
    (hf : s.isFree c = true) (ht : s.level c ≠ ⊤) :
    s.level c = l.length ↔ ∀ d ∈ c :: l, (s.costAt d).consistent = true := by
  induction l generalizing c with
  | nil =>
    obtain rfl : c = s.goal := Option.some.inj hlast
    rw [List.forall_mem_singleton, h.consistent_goal, List.length_nil, Nat.cast_zero]
  | cons d l ih =>
    have hfree := h.isFree_of_isChain hl hf
    obtain ⟨hcd, hl⟩ := List.isChain_cons_cons.mp hl
    rw [List.getLast?_cons_cons] at hlast
    have hlt : s.level d < s.level c := h.lt_iff.mp hcd.lt
    have hle := h.length_le_level hl
    -- what the first step and the other steps take off is each no less than it should be
    have hsplit : s.level c = (d :: l).length ↔ s.level c = s.level d + 1 ∧ s.level d = l.length := by
      rw [List.length_cons]
      generalize s.level c = x at ht hlt ⊢
      generalize s.level d = y at hlt hle ⊢
      lift y to ℕ using hlt.ne_top
      lift x to ℕ using ht
      norm_cast at hlt hle ⊢
      omega
    rw [hsplit, List.forall_mem_cons, h.consistent_iff_level hcd hf ht,
      ih hl hlast (hfree d (by simp)) hlt.ne_top]

lemma cost_of_extract {r : Route} (hr : s.extract = some r) :
    (∃ n : ℕ, r.cost = Float.ofNat n ∧ r.cells.length ≤ n + 1) ∧
      (r.cost = Float.ofNat (r.cells.length - 1) ↔
        ∀ c : Cell width height, c.toPoint ∈ r.cells → (s.costAt c).consistent = true) := by
  obtain ⟨l, hl, hlast, hfree, hinf, rfl⟩ := extract_eq_some hr
  have htally := (h.tally s.start).1
  have htop : s.level s.start ≠ ⊤ := by
    intro he
    exact hinf ((htally.eq_iff Tally.infinity).mpr (he.trans Tally.number_infinity.symm))
  obtain ⟨n, hn⟩ := ENat.ne_top_iff_exists.mp htop
  have hcost : (s.costAt s.start).g = Float.ofNat n := by
    rw [← htally.toFloat_number, ← level, ← hn, Cost.toFloat_coe]
  have hle : l.length ≤ n := by
    have hle := h.length_le_level hl
    rwa [← hn, Nat.cast_le] at hle
  have hlimit : n ≤ Cost.limit := Cost.held_coe.mp (by rw [hn]; exact htally.held_number)
  have hnumber : (s.costAt s.start).g = Float.ofNat l.length ↔ s.level s.start = l.length := by
    rw [htally.eq_iff (Tally.ofNat (hle.trans hlimit)), Tally.number_ofNat (hle.trans hlimit)]
    rfl
  have hmem (c : Cell width height) :
      c.toPoint ∈ (s.start :: l).map Cell.toPoint ↔ c ∈ s.start :: l :=
    List.mem_map_of_injective Cell.toPoint_injective
  dsimp only
  rw [List.length_map, List.length_cons, Nat.add_sub_cancel, hnumber,
    h.level_eq_length_iff hl hlast hfree htop]
  exact ⟨⟨n, hcost, Nat.succ_le_succ hle⟩, forall_congr' fun c => imp_congr (hmem c).symm Iff.rfl⟩

end Tidy

lemma route_of_explored_lt (hnew : Planner.new width height p q obstacles limits = .ok s₀)
    {calls : List (Call width height)} (hw : Within width height (s₀.travelled (calls ++ [k])))
    {a : Plan} (ha : ((s₀.after calls).call k).2 = some a)
    (hlt : a.explored < limits.searchCap width height) :
    ∃ t : Planner width height, a.route = bestRoute t.blocked t.start t.goal := by
  obtain ⟨t, ht, rfl⟩ := searched_of_answer ha
  obtain ⟨hf, hc, hl⟩ := coherent_of_history hnew hw ht
  refine ⟨t, plan_of_settled hc ?_ (by rw [hl]; exact hf.le_pathCap)⟩
  change t.search.2 < _ at hlt
  rw [search_eq, hl] at hlt
  rw [search_eq, hl]
  exact step_rest_of_lt hlt

/-- Whatever has happened before: the cost of a path that is answered is a number, no less than that of
its steps. It is that number if and only if no cell of the path is left inconsistent, which is so if
the search has not used up its rounds. -/
theorem cost_eq_iff_consistent (hnew : Planner.new width height p q obstacles limits = .ok s₀)
    (calls : List (Call width height)) (k : Call width height) {a : Plan}
    (ha : ((s₀.after calls).call k).2 = some a) (hs : a.success = true) :
    let s := ((s₀.after calls).call k).1
    (∃ n : ℕ, a.cost = Float.ofNat n ∧ a.path.length ≤ n + 1) ∧
      (a.cost = Float.ofNat (a.path.length - 1) ↔
        ∀ c : Cell width height, c.toPoint ∈ a.path → (s.costAt c).consistent = true) ∧
      (Within width height (s₀.travelled (calls ++ [k])) →
        a.explored < limits.searchCap width height → a.cost = Float.ofNat (a.path.length - 1)) := by
  obtain ⟨-, h, -⟩ := tidy_of_history hnew calls
  obtain ⟨r, hr⟩ := Option.isSome_iff_exists.mp hs
  obtain ⟨hbound, hiff⟩ :=
    (Tidy.kept.call h k).cost_of_extract ((route_of_answer ha).symm.trans hr)
  have hcost : a.cost = r.cost := by rw [Plan.cost, hr]; rfl
  have hpath : a.path = r.cells := by rw [Plan.path, hr]; rfl
  refine ⟨?_, ?_, fun hw hlt => ?_⟩
  · rwa [hcost, hpath]
  · rwa [hcost, hpath]
  · obtain ⟨t, ht⟩ := route_of_explored_lt hnew hw ha hlt
    exact (Plan.optimal_of_route ht).cost hs

theorem cost_after_errand : ∃ (s₀ : Planner 3 2) (a : Plan),
    Planner.new 3 2 ⟨0, 0⟩ ⟨2, 0⟩ [] = .ok s₀ ∧ ((s₀.after errand).call .plan).2 = some a ∧
      a.success = true ∧ Within 3 2 (s₀.travelled (errand ++ [.plan])) ∧
      a.explored < Limits.strict.searchCap 3 2 ∧ a.cost = Float.ofNat (a.path.length - 1) := by
  have hnew : Planner.new 3 2 ⟨0, 0⟩ ⟨2, 0⟩ [] = .ok _ := rfl
  refine ⟨_, _, hnew, rfl, by decide +kernel, by decide +kernel, by decide +kernel, ?_⟩
  exact (cost_eq_iff_consistent hnew errand .plan rfl (by decide +kernel)).2.2 (by decide +kernel)
    (by decide +kernel)

section Corner

def posts : List Point := [⟨1, 0⟩, ⟨3, 1⟩, ⟨7, 0⟩, ⟨9, 1⟩]

def outing : List (Call 10 2) := [.plan, .replan [⟨4, 1⟩] posts (some ⟨8, 0⟩)]

def detour : Call 10 2 := .replan [⟨2, 0⟩] [⟨4, 1⟩] (some ⟨9, 0⟩)

def posted : Planner 10 2 :=
  fresh ⟨⟨1, 0⟩, by decide⟩ ⟨⟨0, 0⟩, by decide⟩ (marked (cells posts)) ⟨1, 1⟩

def outside : Planner 10 2 :=
  posted.trip (cells [⟨4, 1⟩]) (cells posts) ⟨⟨8, 0⟩, by decide⟩

def atCorner : Planner 10 2 :=
  outside.trip (cells [⟨2, 0⟩]) (cells [⟨4, 1⟩]) ⟨⟨9, 0⟩, by decide⟩

lemma new_posted : Planner.new 10 2 ⟨1, 0⟩ ⟨0, 0⟩ posts ⟨1, 1⟩ = .ok posted :=
  new_eq_ok.mpr ⟨⟨by decide, rfl, _, rfl⟩, _, _, cells posts, rfl, rfl, toPoint_cells _ (by decide), rfl⟩

lemma after_outing (s : Planner 10 2) : s.after outing =
    (s.search.1.call (.replan [⟨4, 1⟩] posts (some ⟨8, 0⟩))).1 := rfl

lemma call_detour : ((posted.after outing).call detour).2 = some atCorner.plan.2 := by
  have hout := (posted.call_trip (c := ⟨⟨8, 0⟩, by decide⟩) (toPoint_cells [⟨4, 1⟩] (by decide))
    (toPoint_cells posts (by decide)) rfl).1
  rw [after_outing, hout]
  exact (outside.call_trip (c := ⟨⟨9, 0⟩, by decide⟩) (toPoint_cells [⟨2, 0⟩] (by decide))
    (toPoint_cells [⟨4, 1⟩] (by decide)) rfl).2

lemma plan_atCorner : atCorner.plan.2.success = true ∧ atCorner.plan.2.path.length = 12 ∧
    atCorner.plan.2.cost = Float.ofNat 13 := by
  have hextract : ((((Ledger.fresh ⟨⟨1, 0⟩, by decide⟩ ⟨⟨0, 0⟩, by decide⟩ (marked (cells posts))
      ⟨1, 1⟩).trip (cells [⟨4, 1⟩]) (cells posts) ⟨⟨8, 0⟩, by decide⟩).trip
        (cells [⟨2, 0⟩]) (cells [⟨4, 1⟩]) (⟨⟨9, 0⟩, by decide⟩ : Cell 10 2)).search.extract.map
          fun r => (r.1.length, r.2)) = some (12, 13) := by
    decide +kernel
  obtain ⟨r, hr, hlength⟩ := Option.map_eq_some_iff.mp hextract
  obtain ⟨hlength, hcost⟩ := Prod.mk.inj hlength
  have hroute : atCorner.plan.2.route = some ⟨r.1, Cost.toFloat r.2⟩ := by
    rw [atCorner, outside, posted, route_after_trips (by decide), hr, Option.map_some]
  rw [Plan.success, Plan.path, Plan.cost, hroute]
  refine ⟨rfl, hlength, ?_⟩
  change Cost.toFloat r.2 = _
  rw [hcost]
  exact Cost.toFloat_coe 13

theorem overpriced_detour : ∃ (s₀ : Planner 10 2) (a : Plan),
    Planner.new 10 2 ⟨1, 0⟩ ⟨0, 0⟩ posts ⟨1, 1⟩ = .ok s₀ ∧
      Within 10 2 (s₀.travelled (outing ++ [detour])) ∧
      ((s₀.after outing).call detour).2 = some a ∧ a.success = true ∧ a.path.length = 12 ∧
      a.cost = Float.ofNat 13 ∧ a.cost ≠ Float.ofNat (a.path.length - 1) := by
  have hw : Within 10 2 (posted.travelled (outing ++ [detour])) :=
    Within.mono (by decide) (posted.travelled_le (outing ++ [detour]))
  obtain ⟨hs, hlength, hcost⟩ := plan_atCorner
  refine ⟨posted, _, new_posted, hw, call_detour, hs, hlength, hcost, ?_⟩
  rw [hcost, hlength]
  decide

end Corner

end Navigation.Replanning.Planner
