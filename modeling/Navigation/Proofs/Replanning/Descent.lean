import Navigation.Proofs.Replanning.Answers
import Navigation.Proofs.Replanning.Records

namespace Navigation.Replanning.Planner

variable {width height : ℕ} {s s₀ : Planner width height} {c d : Cell width height}
  {l : List (Cell width height)} {limits : Limits} {k : Call width height} {p q : Point}
  {obstacles : List Point}

inductive Outcome where
  | reached
  | stuck
  | cut
  deriving DecidableEq

def descent (s : Planner width height) : ℕ → Cell width height → List (Cell width height) × Outcome
  | 0, c => ([], if c = s.goal then .reached else .cut)
  | steps + 1, c =>
    if c = s.goal then ([], .reached)
    else match s.bestNeighbor c with
      | none => ([], .stuck)
      | some n =>
        if (s.costAt n).g < (s.costAt c).g then (n :: (descent s steps n).1, (descent s steps n).2)
        else ([], .stuck)

lemma descend_eq (s : Planner width height) (steps : ℕ) (c : Cell width height) :
    s.descend steps c = if (s.descent steps c).2 = .reached then
      some ((c :: (s.descent steps c).1).map Cell.toPoint) else none := by
  fun_induction descent with
  | case1 c =>
    rw [descend]
    split <;> rfl
  | case2 steps => rw [descend, if_pos rfl, if_pos rfl]; rfl
  | case3 steps c hc hb => rw [descend, if_neg hc, hb]; rfl
  | case4 steps c hc n hb hlt ih =>
    rw [descend, if_neg hc, hb]
    dsimp only
    rw [if_pos hlt, ih]
    split <;> rfl
  | case5 steps c hc n hb hlt =>
    rw [descend, if_neg hc, hb]
    dsimp only
    rw [if_neg hlt]
    rfl

structure Downhill (s : Planner width height) (c d : Cell width height) : Prop where
  ne : c ≠ s.goal
  best : s.bestNeighbor c = some d
  lt : (s.costAt d).g < (s.costAt c).g

lemma isChain_descent (s : Planner width height) (steps : ℕ) (c : Cell width height) :
    (c :: (s.descent steps c).1).IsChain s.Downhill := by
  fun_induction descent with
  | case1 c => exact List.isChain_singleton c
  | case2 steps => exact List.isChain_singleton _
  | case3 steps c hc hb => exact List.isChain_singleton c
  | case4 steps c hc n hb hlt ih => exact List.isChain_cons_cons.mpr ⟨⟨hc, hb, hlt⟩, ih⟩
  | case5 steps c hc n hb hlt => exact List.isChain_singleton c

lemma getLast?_descent (s : Planner width height) (steps : ℕ) (c : Cell width height)
    (h : (s.descent steps c).2 = .reached) :
    (c :: (s.descent steps c).1).getLast? = some s.goal := by
  fun_induction descent with
  | case1 c =>
    split at h
    · rename_i hc
      rw [hc]
      rfl
    · cases h
  | case2 steps => rfl
  | case3 steps c hc hb => cases h
  | case4 steps c hc n hb hlt ih =>
    rw [List.getLast?_cons_cons]
    exact ih h
  | case5 steps c hc n hb hlt => cases h

lemma length_descent (s : Planner width height) (steps : ℕ) (c : Cell width height)
    (h : (s.descent steps c).2 = .cut) : (s.descent steps c).1.length = steps := by
  fun_induction descent with
  | case1 c => rfl
  | case2 steps => cases h
  | case3 steps c hc hb => cases h
  | case4 steps c hc n hb hlt ih => rw [List.length_cons, ih h]
  | case5 steps c hc n hb hlt => cases h

lemma better_eq_some {α : Type} (f : α → ℕ∞) (best : Option α) (n : α) : ∃ m, better f best n = some m ∧
    (best = some m ∨ m = n) ∧ f m ≤ f n ∧ ∀ b, best = some b → f m ≤ f b := by
  cases best with
  | none => exact ⟨n, rfl, Or.inr rfl, le_rfl, fun b hb => (Option.some_ne_none b hb.symm).elim⟩
  | some b =>
    rw [better]
    split
    · rename_i hlt
      exact ⟨n, rfl, Or.inr rfl, le_rfl, fun b' hb => Option.some.inj hb ▸ hlt.le⟩
    · rename_i hlt
      exact ⟨b, rfl, Or.inl rfl, not_lt.mp hlt, fun b' hb => Option.some.inj hb ▸ le_rfl⟩

lemma foldl_better_eq_some {α : Type} {f : α → ℕ∞} {l : List α} {best : Option α} {a : α}
    (h : l.foldl (better f) best = some a) :
    (best = some a ∨ a ∈ l) ∧ (∀ b, best = some b → f a ≤ f b) ∧ ∀ b ∈ l, f a ≤ f b := by
  induction l generalizing best with
  | nil =>
    exact ⟨Or.inl h, fun b hb => by rw [Option.some.inj (h.symm.trans hb)],
      fun b hb => (List.not_mem_nil hb).elim⟩
  | cons n l ih =>
    obtain ⟨hmem, hle, hall⟩ := ih h
    obtain ⟨m, hm, hfrom, hmn, hmb⟩ := better_eq_some f best n
    have ham := hle m hm
    refine ⟨?_, fun b hb => ham.trans (hmb b hb), fun b hb => ?_⟩
    · rcases hmem with he | hl
      · obtain rfl := Option.some.inj (hm.symm.trans he)
        exact hfrom.imp_right fun hn => List.mem_cons.mpr (Or.inl hn)
      · exact Or.inr (List.mem_cons_of_mem n hl)
    · rcases List.mem_cons.mp hb with rfl | hb
      · exact ham.trans hmn
      · exact hall b hb

noncomputable def level (s : Planner width height) (c : Cell width height) : ℕ∞ :=
  number (s.costAt c).g

namespace Tidy

variable (h : s.Tidy ∅)

include h

lemma lt_iff : (s.costAt d).g < (s.costAt c).g ↔ s.level d < s.level c :=
  (h.tally d).1.lt_iff (h.tally c).1

lemma bestNeighbor_eq :
    s.bestNeighbor c = (c.neighbors.filter s.isFree).foldl (better s.level) none := by
  refine List.foldl_ext _ _ _ fun best n _ => ?_
  cases best with
  | none => rfl
  | some b =>
    rw [better]
    exact if_congr h.lt_iff rfl rfl

lemma bestNeighbor_eq_some (hb : s.bestNeighbor c = some d) :
    d ∈ c.neighbors.filter s.isFree ∧ ∀ e ∈ c.neighbors.filter s.isFree, s.level d ≤ s.level e := by
  rw [h.bestNeighbor_eq] at hb
  obtain ⟨hmem, -, hall⟩ := foldl_better_eq_some hb
  exact ⟨hmem.resolve_left nofun, hall⟩

lemma nodup_of_isChain (hl : l.IsChain s.Downhill) : l.Nodup := by
  have hlt : l.IsChain fun c d => s.level d < s.level c := hl.imp fun _ _ hcd => h.lt_iff.mp hcd.lt
  have htrans : IsTrans (Cell width height) fun c d => s.level d < s.level c :=
    ⟨fun _ _ _ hcd hde => lt_trans hde hcd⟩
  exact (List.isChain_iff_pairwise.mp hlt).imp fun hcd he => (he ▸ hcd).ne rfl

lemma length_le_of_isChain (hl : l.IsChain s.Downhill) : l.length ≤ width * height := by
  rw [← Cell.card_eq]
  exact (h.nodup_of_isChain hl).length_le_card

lemma descent_ne_cut (hcap : width * height ≤ s.limits.pathCap width height) (c : Cell width height) :
    (s.descent (s.limits.pathCap width height) c).2 ≠ .cut := by
  intro hcut
  have hle := h.length_le_of_isChain (s.isChain_descent (s.limits.pathCap width height) c)
  rw [List.length_cons, s.length_descent _ c hcut] at hle
  omega

lemma isFree_of_isChain (hl : (c :: l).IsChain s.Downhill) (hc : s.isFree c = true) :
    ∀ d ∈ c :: l, s.isFree d = true := by
  induction l generalizing c with
  | nil =>
    intro d hd
    rwa [List.mem_singleton.mp hd]
  | cons e l ih =>
    obtain ⟨hce, hl⟩ := List.isChain_cons_cons.mp hl
    have he := (List.mem_filter.mp (h.bestNeighbor_eq_some hce.best).1).2
    intro d hd
    rcases List.mem_cons.mp hd with rfl | hd
    · exact hc
    · exact ih hl he d hd

end Tidy

/-- A way that the robot can take: from the start to the goal, over free cells, from each to one beside
it, and over none twice. -/
structure Drivable (blocked : Table height width Bool) (start goal : Cell width height)
    (path : List Point) : Prop where
  first : path.head? = some start.toPoint
  last : path.getLast? = some goal.toPoint
  adjacent : path.IsChain fun p q => p.manhattan q = 1
  free : ∀ p ∈ path, ∃ c : Cell width height, c.toPoint = p ∧ blocked.lookup c = false
  nodup : path.Nodup

lemma Tidy.drivable (h : s.Tidy ∅) (hl : (s.start :: l).IsChain s.Downhill)
    (hlast : (s.start :: l).getLast? = some s.goal) (hfree : s.isFree s.start = true) :
    Drivable s.blocked s.start s.goal ((s.start :: l).map Cell.toPoint) where
  first := rfl
  last := by rw [List.getLast?_map, hlast]; rfl
  adjacent := by
    rw [List.isChain_map]
    exact hl.imp fun _ _ hcd =>
      Cell.mem_neighbors.mp (List.mem_filter.mp (h.bestNeighbor_eq_some hcd.best).1).1
  free p hp := by
    obtain ⟨c, hc, rfl⟩ := List.mem_map.mp hp
    have hf := h.isFree_of_isChain hl hfree c hc
    rw [isFree, Bool.not_eq_true'] at hf
    exact ⟨c, rfl, hf⟩
  nodup := (h.nodup_of_isChain hl).map Cell.toPoint_injective

lemma extract_eq_some {r : Route} (hr : s.extract = some r) :
    ∃ l, (s.start :: l).IsChain s.Downhill ∧ (s.start :: l).getLast? = some s.goal ∧
      s.isFree s.start = true ∧ (s.costAt s.start).g ≠ Plan.infinity ∧
      r = ⟨(s.start :: l).map Cell.toPoint, (s.costAt s.start).g⟩ := by
  unfold extract at hr
  dsimp only at hr
  split at hr
  · rename_i hcond
    rw [Bool.and_eq_true, Bool.and_eq_true] at hcond
    obtain ⟨⟨hstart, -⟩, hne⟩ := hcond
    rw [descend_eq] at hr
    split at hr
    · rename_i hreached
      refine ⟨_, s.isChain_descent _ s.start, s.getLast?_descent _ s.start hreached, hstart, ?_,
        (Option.some.inj hr).symm⟩
      intro he
      rw [he] at hne
      cases hne
    · cases hr
  · cases hr

/-- Whatever has happened before, and even if the search was cut short: a path that is answered can be
driven, every other answer is empty, and going down from a cell never runs out of steps. -/
theorem drivable_or_failed (hnew : Planner.new width height p q obstacles limits = .ok s₀)
    (calls : List (Call width height)) (k : Call width height) {a : Plan}
    (ha : ((s₀.after calls).call k).2 = some a) :
    let s := ((s₀.after calls).call k).1
    (a.success = true → Drivable s.blocked s.start s.goal a.path) ∧
      (a.success = false → a.path = [] ∧ a.cost = Plan.infinity) ∧
      a.path.length ≤ width * height ∧
      width * height ≤ s.limits.pathCap width height ∧
      ∀ c, (s.descent (s.limits.pathCap width height) c).2 ≠ .cut := by
  obtain ⟨hf, h, hl⟩ := tidy_of_history hnew calls
  replace h := Tidy.kept.call h k
  replace hl := (kept_limits limits).call hl k
  have hcap := hf.le_pathCap
  rw [← hl] at hcap
  have hroute := route_of_answer ha
  dsimp only
  refine ⟨fun hs => ?_, fun hs => ?_, ?_, hcap, h.descent_ne_cut hcap⟩
  · obtain ⟨r, hr⟩ := Option.isSome_iff_exists.mp hs
    obtain ⟨l, hl, hlast, hfree, -, rfl⟩ := extract_eq_some (hroute.symm.trans hr)
    rw [Plan.path, hr]
    exact h.drivable hl hlast hfree
  · rw [Plan.success, Option.isSome_eq_false_iff, Option.isNone_iff_eq_none] at hs
    rw [Plan.path, Plan.cost, hs]
    exact ⟨rfl, rfl⟩
  · cases hr : a.route with
    | none =>
      rw [Plan.path, hr]
      exact Nat.zero_le _
    | some r =>
      obtain ⟨l, hl, -, -, -, rfl⟩ := extract_eq_some (hroute.symm.trans hr)
      rw [Plan.path, hr]
      exact (List.length_map _).trans_le (h.length_le_of_isChain hl)

theorem drivable_after_errand : ∃ (s₀ : Planner 3 2) (a : Plan),
    Planner.new 3 2 ⟨0, 0⟩ ⟨2, 0⟩ [] ⟨1, 1⟩ = .ok s₀ ∧ ((s₀.after errand).call .plan).2 = some a ∧
      a.success = true ∧ let s := ((s₀.after errand).call .plan).1
      Drivable s.blocked s.start s.goal a.path := by
  have hnew : Planner.new 3 2 ⟨0, 0⟩ ⟨2, 0⟩ [] ⟨1, 1⟩ = .ok _ := rfl
  have hs : ((fresh ⟨⟨0, 0⟩, by decide⟩ ⟨⟨2, 0⟩, by decide⟩ (marked []) ⟨1, 1⟩ : Planner 3 2).after
      errand).plan.2.success = true := by decide +kernel
  exact ⟨_, _, hnew, rfl, hs, (drivable_or_failed hnew errand .plan rfl).1 hs⟩

end Navigation.Replanning.Planner
