import Navigation.Proofs.Grid.Ways
import Navigation.Proofs.Replanning.Rounds

/-! What a search that has ended on its own leaves. -/

namespace Navigation.Replanning.Planner

variable {width height : ℕ} {s : Planner width height} {c d : Cell width height}
  {e : Entry width height} {q : Queue width height}

lemma Exact.finished_iff (h : s.Exact) {x : ℕ∞ ×ₗ ℕ∞} (hx : Key.Exact x) :
    s.finished (Key.of x) = true ↔ s.key s.start ≤ x ∧ s.g s.start = s.rhs s.start := by
  have hlt : compare (Key.of x) (Key.of (s.key s.start)) ≠ .lt ↔ s.key s.start ≤ x := by
    rw [ne_eq, Key.compare_eq_lt, Key.place_of_lt hx (h.key_exact _), not_lt]
  rw [finished, h.keyOf_eq, Bool.and_eq_true, decide_eq_true_iff, hlt, h.consistent_iff]

lemma Coherent.frozen_start (h : s.Coherent ∅) (hs : s.step = none) : s.Frozen s.start := by
  rcases step_eq_none.mp hs with hp | ⟨e, q, hp, hf⟩
  · have hnone (d : Cell width height) : s.queued d = none := h.valid.eq_none_of_pop hp
    refine ⟨(h.idle _ (Set.notMem_empty _)).mp (hnone _), fun d y hy => ?_⟩
    cases (hnone d).symm.trans hy.queued
  · obtain ⟨x, hx, hh⟩ := h.heads hp
    rw [hx, h.exact.finished_iff (hh.stored.exact h.exact)] at hf
    exact ⟨hf.2, fun d y hy => hf.1.trans (hh.le d y hy)⟩

namespace Frozen

lemma quiet (hf : s.Frozen c) (h : s.Coherent ∅) :
    Quiet s.graph s.goal s.g (fun d => d.toPoint.manhattan c.toPoint) (s.g c) := by
  have hle := hf.2
  rw [key, least, ← hf.1, min_self] at hle
  exact h.quiet hle

lemma g_eq (hf : s.Frozen c) (h : s.Coherent ∅) : s.g c = s.toGoal c := by
  have hle := hf.2
  rw [key, least, hf.1, min_self] at hle
  rw [hf.1, h.due_eq_toGoal hle]

end Frozen

structure OnWay (s : Planner width height) (c : Cell width height) (n k : ℕ) : Prop where
  toGoal : s.toGoal c = n
  near : c.toPoint.manhattan s.start.toPoint ≤ k
  total : s.toGoal s.start = (n + k : ℕ)
  start : k = 0 → c = s.start

namespace OnWay

variable {n k : ℕ}

lemma next (hw : s.OnWay c (n + 1) k) (hadj : s.graph.Adj c d) (hd : s.toGoal d = n) :
    s.OnWay d n (k + 1) where
  toGoal := hd
  near := (roads.manhattan_le_succ hadj s.start).trans (Nat.add_le_add_right hw.near 1)
  total := by
    rw [hw.total]
    congr 1
    omega
  start h := (Nat.succ_ne_zero k h).elim

variable (hw : s.OnWay c n k) (h : s.Coherent ∅) (hf : s.Frozen s.start)

include hw h hf

lemma g_eq : s.g c = n := by
  by_cases hk : k = 0
  · have hc := hw.start hk
    rw [hc, hf.g_eq h, ← hc, hw.toGoal]
  · have hq := hf.quiet h
    rw [hf.g_eq h, hw.total] at hq
    rw [hq.eq_edist hw.near ?_ (ENat.natCast_ne_top _) (Nat.pos_of_ne_zero hk)]
    · exact hw.toGoal
    · change s.toGoal c + k ≤ _
      rw [hw.toGoal, Nat.cast_add]

lemma toGoal_le (hadj : s.graph.Adj c d) {m : ℕ} (hd : s.g d = m) (hm : m + 1 ≤ n) :
    s.toGoal d ≤ s.g d := by
  have hq := hf.quiet h
  rw [hf.g_eq h, hw.total] at hq
  exact hq.edist_le_of_adj hadj hw.near hd (Nat.cast_le.mpr (by omega))

end OnWay

noncomputable def better {α : Type} (f : α → ℕ∞) : Option α → α → Option α
  | none, n => some n
  | some b, n => if f n < f b then some n else some b

section

variable {α : Type} {f : α → ℕ∞} {m : ℕ∞} {l : List α}

lemma foldl_better_some {b : α} (hl : ∀ n ∈ l, m ≤ f n) (hb : f b = m) :
    l.foldl (better f) (some b) = some b := by
  induction l with
  | nil => rfl
  | cons n l ih =>
    rw [List.foldl_cons, better, if_neg (by rw [hb, not_lt]; exact hl n List.mem_cons_self)]
    exact ih fun x hx => hl x (List.mem_cons_of_mem n hx)

lemma foldl_better {best : Option α} (hl : ∀ n ∈ l, m ≤ f n) (hb : ∀ b, best = some b → m < f b)
    (hm : ∃ n ∈ l, f n = m) : l.foldl (better f) best = l.find? fun n => f n = m := by
  induction l generalizing best with
  | nil =>
    obtain ⟨n, hn, -⟩ := hm
    cases hn
  | cons n l ih =>
    have hl' : ∀ x ∈ l, m ≤ f x := fun x hx => hl x (List.mem_cons_of_mem n hx)
    rw [List.foldl_cons]
    by_cases hn : f n = m
    · have hbest : better f best n = some n := by
        cases best with
        | none => rfl
        | some b => rw [better, if_pos (hn ▸ hb b rfl)]
      rw [hbest, foldl_better_some hl' hn, List.find?_cons_of_pos (by simpa using hn)]
    · have hlt : m < f n := lt_of_le_of_ne (hl n List.mem_cons_self) (Ne.symm hn)
      rw [List.find?_cons_of_neg (by simpa using hn)]
      refine ih hl' ?_ ?_
      · intro b he
        cases best with
        | none =>
          cases he
          exact hlt
        | some b' =>
          rw [better] at he
          split at he
          · cases he
            exact hlt
          · cases he
            exact hb b rfl
      · obtain ⟨x, hx, hxm⟩ := hm
        rcases List.mem_cons.mp hx with rfl | hx
        · exact (hn hxm).elim
        · exact ⟨x, hx, hxm⟩

end

lemma Exact.bestNeighbor_eq (h : s.Exact) (c : Cell width height) :
    s.bestNeighbor c = (c.neighbors.filter s.isFree).foldl (better s.g) none := by
  have hlt (n b : Cell width height) : (s.costAt n).g < (s.costAt b).g ↔ s.g n < s.g b := by
    rw [h.costs n, h.costs b]
    exact Cost.toFloat_lt (h.g_exact n) (h.g_exact b)
  unfold bestNeighbor
  congr 1
  funext best n
  cases best with
  | none => rfl
  | some b => simp only [better, hlt]

lemma OnWay.bestNeighbor {n k : ℕ} (hw : s.OnWay c (n + 1) k) (h : s.Coherent ∅)
    (hf : s.Frozen s.start) : s.bestNeighbor c = nextHop s.blocked s.goal c := by
  obtain ⟨e, -, hadj, he⟩ := exists_nextHop hw.toGoal
  have hadj' (d : Cell width height) (hd : d ∈ c.neighbors.filter s.isFree) : s.graph.Adj c d := by
    rw [List.mem_filter, isFree, Bool.not_eq_true'] at hd
    exact ⟨hd.1, hadj.2.1, hd.2⟩
  have hle (d : Cell width height) (hd : s.graph.Adj c d) : (n : ℕ∞) ≤ s.toGoal d := by
    have hle := roads.edist_le_succ hd s.goal
    rw [show (Navigation.roads s.blocked).edist c s.goal = (n + 1 : ℕ) from hw.toGoal, Nat.cast_add,
      Nat.cast_one] at hle
    exact (ENat.add_le_add_iff_right ENat.one_ne_top).mp hle
  -- an estimate below `n` would be a distance, and no neighbour is closer than that
  have hge (d : Cell width height) (hd : d ∈ c.neighbors.filter s.isFree) : (n : ℕ∞) ≤ s.g d := by
    by_contra hlt
    obtain ⟨m, hm⟩ := ENat.ne_top_iff_exists.mp (not_le.mp hlt).ne_top
    rw [← hm, Nat.cast_le] at hlt
    have hto := hw.toGoal_le h hf (hadj' d hd) hm.symm (by omega)
    rw [← hm] at hto
    exact hlt (Nat.cast_le.mp ((hle d (hadj' d hd)).trans hto))
  have hgoal (d : Cell width height) (hd : d ∈ c.neighbors.filter s.isFree) :
      s.g d = n ↔ s.toGoal d + 1 = s.toGoal c := by
    rw [hw.toGoal, Nat.cast_add, Nat.cast_one]
    constructor
    · intro hg
      have hto := hw.toGoal_le h hf (hadj' d hd) hg le_rfl
      rw [hg] at hto
      rw [le_antisymm hto (hle d (hadj' d hd))]
    · intro hd'
      exact (hw.next (hadj' d hd) (ENat.add_left_injective_of_ne_top ENat.one_ne_top hd')).g_eq h hf
  have hmem : e ∈ c.neighbors.filter s.isFree :=
    List.mem_filter.mpr ⟨hadj.1, by rw [isFree, hadj.2.2]; rfl⟩
  have hex : s.g e = n := (hw.next hadj he).g_eq h hf
  rw [h.exact.bestNeighbor_eq, foldl_better hge (fun b hb => by cases hb) ⟨e, hmem, hex⟩, nextHop]
  exact List.find?_congr fun d hd => decide_eq_decide.mpr (hgoal d hd)

lemma OnWay.descend {n k fuel : ℕ} (hw : s.OnWay c n k) (h : s.Coherent ∅) (hf : s.Frozen s.start)
    (hn : n ≤ fuel) : s.descend fuel c = some (way s.blocked s.goal n c) := by
  induction n generalizing c k fuel with
  | zero =>
    have hc : c = s.goal := SimpleGraph.edist_eq_zero_iff.mp hw.toGoal
    cases fuel <;> rw [Planner.descend, if_pos hc, way]
  | succ n ih =>
    obtain ⟨fuel, rfl⟩ : ∃ m, fuel = m + 1 := ⟨fuel - 1, by omega⟩
    obtain ⟨d, hd, hadj, hto⟩ := exists_nextHop hw.toGoal
    have hnext := hw.next hadj hto
    have hne : c ≠ s.goal := by
      rintro rfl
      have h0 := hw.toGoal
      rw [Planner.toGoal, SimpleGraph.edist_self] at h0
      exact Nat.succ_ne_zero n (Nat.cast_injective h0.symm)
    have hlt : (s.costAt d).g < (s.costAt c).g := by
      rw [h.exact.costs c, h.exact.costs d]
      dsimp only
      rw [Cost.toFloat_lt (h.exact.g_exact d) (h.exact.g_exact c), hnext.g_eq h hf, hw.g_eq h hf]
      exact Nat.cast_lt.mpr (Nat.lt_succ_self n)
    rw [Planner.descend, if_neg hne, hw.bestNeighbor h hf, hd, way, hd]
    dsimp only
    rw [if_pos hlt, ih hnext (Nat.le_of_succ_le_succ hn)]
    rfl

lemma extract_eq (h : s.Coherent ∅) (hf : s.Frozen s.start)
    (hcap : width * height ≤ s.limits.pathCap width height) :
    s.extract = bestRoute s.blocked s.start s.goal := by
  have hg := hf.g_eq h
  have hinf : ((s.costAt s.start).g != Plan.infinity) = true ↔
      (roads s.blocked).Reachable s.start s.goal := by
    have hbeq := Cost.toFloat_beq (h.exact.g_exact s.start) Cost.exact_top
    rw [Cost.toFloat_top] at hbeq
    rw [h.exact.costs s.start, bne, Bool.not_eq_true', ← Bool.not_eq_true, hbeq, hg]
    exact SimpleGraph.edist_ne_top_iff_reachable
  have hcond : (s.isFree s.start && s.isFree s.goal && (s.costAt s.start).g != Plan.infinity) = true ↔
      s.blocked.lookup s.start = false ∧ s.blocked.lookup s.goal = false ∧
        (roads s.blocked).Reachable s.start s.goal := by
    rw [Bool.and_eq_true, Bool.and_eq_true, hinf, isFree, isFree, Bool.not_eq_true',
      Bool.not_eq_true', and_assoc]
  unfold extract bestRoute
  dsimp only
  by_cases hr : s.blocked.lookup s.start = false ∧ s.blocked.lookup s.goal = false ∧
      (roads s.blocked).Reachable s.start s.goal
  · have hdist : s.toGoal s.start = ((roads s.blocked).dist s.start s.goal : ℕ) :=
      hr.2.2.coe_dist_eq_edist.symm
    have hw : s.OnWay s.start ((roads s.blocked).dist s.start s.goal) 0 :=
      ⟨hdist, (Point.manhattan_self _).le, hdist, fun _ => rfl⟩
    have hlt : (roads s.blocked).dist s.start s.goal < width * height := by
      have hlt := roads.edist_lt_card (SimpleGraph.edist_ne_top_iff_reachable.mpr hr.2.2)
      rw [← hr.2.2.coe_dist_eq_edist] at hlt
      exact Nat.cast_lt.mp hlt
    rw [if_pos (hcond.mpr hr), if_pos hr, hw.descend h hf (by omega), h.exact.costs s.start, hg, hdist,
      Cost.toFloat_coe]
    rfl
  · rw [if_neg (mt hcond.mp hr), if_neg hr]

end Navigation.Replanning.Planner
