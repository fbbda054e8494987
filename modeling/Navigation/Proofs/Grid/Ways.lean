import Mathlib.Combinatorics.SimpleGraph.Connectivity.Finite
import Navigation.Plan
import Navigation.Proofs.Grid.Roads

namespace Navigation

variable {width height : ℕ} {blocked : Table height width Bool} {start goal c d : Cell width height}

noncomputable section

open scoped Classical in
def nextHop (blocked : Table height width Bool) (goal c : Cell width height) :
    Option (Cell width height) :=
  (c.neighbors.filter fun d => !blocked.lookup d).find? fun d =>
    (roads blocked).edist d goal + 1 = (roads blocked).edist c goal

def way (blocked : Table height width Bool) (goal : Cell width height) :
    ℕ → Cell width height → List Point
  | 0, c => [c.toPoint]
  | n + 1, c => match nextHop blocked goal c with
    | none => [c.toPoint]
    | some d => c.toPoint :: way blocked goal n d

open scoped Classical in
def bestRoute (blocked : Table height width Bool) (start goal : Cell width height) : Option Route :=
  if blocked.lookup start = false ∧ blocked.lookup goal = false ∧ (roads blocked).Reachable start goal
  then some ⟨way blocked goal ((roads blocked).dist start goal) start,
    Float.ofNat ((roads blocked).dist start goal)⟩
  else none

lemma exists_nextHop {n : ℕ} (h : (roads blocked).edist c goal = (n + 1 : ℕ)) :
    ∃ d, nextHop blocked goal c = some d ∧ (roads blocked).Adj c d ∧
      (roads blocked).edist d goal = n := by
  obtain ⟨e, hadj, he⟩ := roads.exists_closer h
  have hmem : e ∈ c.neighbors.filter fun d => !blocked.lookup d :=
    List.mem_filter.mpr ⟨hadj.1, by rw [hadj.2.2]; rfl⟩
  cases hd : nextHop blocked goal c with
  | none =>
    have hne := List.find?_eq_none.mp hd e hmem
    rw [he, h, decide_eq_true_iff] at hne
    exact (hne (by rw [Nat.cast_add, Nat.cast_one])).elim
  | some d =>
    have hd' := List.mem_of_find?_eq_some hd
    have heq := List.find?_some hd
    rw [List.mem_filter, Bool.not_eq_true'] at hd'
    rw [decide_eq_true_iff, h, Nat.cast_add, Nat.cast_one] at heq
    exact ⟨d, rfl, ⟨hd'.1, hadj.2.1, hd'.2⟩, ENat.add_left_injective_of_ne_top ENat.one_ne_top heq⟩

lemma exists_walk_way {n : ℕ} (h : (roads blocked).edist c goal = n) :
    ∃ p : (roads blocked).Walk c goal, p.length = n ∧
      way blocked goal n c = p.support.map Cell.toPoint := by
  induction n generalizing c with
  | zero =>
    obtain rfl := SimpleGraph.edist_eq_zero_iff.mp h
    exact ⟨.nil, rfl, rfl⟩
  | succ n ih =>
    obtain ⟨d, hd, hadj, hdist⟩ := exists_nextHop h
    obtain ⟨p, hp, hway⟩ := ih hdist
    refine ⟨.cons hadj p, by rw [SimpleGraph.Walk.length_cons, hp], ?_⟩
    rw [way, hd]
    dsimp only
    rw [hway]
    rfl

end

lemma isSome_bestRoute : (bestRoute blocked start goal).isSome ↔ blocked.lookup start = false ∧
    blocked.lookup goal = false ∧ (roads blocked).Reachable start goal := by
  unfold bestRoute
  split
  · rename_i h
    exact iff_of_true rfl h
  · rename_i h
    exact iff_of_false Bool.false_ne_true h

namespace Plan

structure Same (p q : Plan) : Prop where
  success : p.success = q.success
  cost : p.cost = q.cost
  path : p.path = q.path

/-- The plan has a path exactly if there is a way over free cells. The path is a shortest one, and its
cost is the number of its steps. -/
structure Optimal (p : Plan) (blocked : Table height width Bool) (start goal : Cell width height) :
    Prop where
  success : p.success = true ↔ blocked.lookup start = false ∧ blocked.lookup goal = false ∧
    (roads blocked).Reachable start goal
  path : p.success = true → ∃ w : (roads blocked).Walk start goal,
    p.path = w.support.map Cell.toPoint ∧ ∀ v : (roads blocked).Walk start goal, w.length ≤ v.length
  cost : p.success = true → p.cost = Float.ofNat (p.path.length - 1)

lemma same_of_route {p q : Plan} (h : p.route = q.route) : p.Same q :=
  ⟨congrArg Option.isSome h, by rw [cost, h, cost], by rw [path, h, path]⟩

lemma optimal_of_route {p : Plan} (h : p.route = bestRoute blocked start goal) :
    p.Optimal blocked start goal := by
  have hs : p.success = true ↔ blocked.lookup start = false ∧ blocked.lookup goal = false ∧
      (roads blocked).Reachable start goal := by
    rw [Plan.success, h, isSome_bestRoute]
  have hr (hp : p.success = true) : ∃ w : (roads blocked).Walk start goal,
      w.length = (roads blocked).dist start goal ∧ p.path = w.support.map Cell.toPoint ∧
        p.cost = Float.ofNat ((roads blocked).dist start goal) := by
    have hreach := (hs.mp hp).2.2
    obtain ⟨w, hw, hway⟩ := exists_walk_way hreach.coe_dist_eq_edist.symm
    rw [bestRoute, if_pos (hs.mp hp)] at h
    exact ⟨w, hw, by rw [Plan.path, h, ← hway]; rfl, by rw [Plan.cost, h]; rfl⟩
  refine ⟨hs, fun hp => ?_, fun hp => ?_⟩
  · obtain ⟨w, hw, hpath, -⟩ := hr hp
    exact ⟨w, hpath, fun v => by rw [hw]; exact SimpleGraph.dist_le v⟩
  · obtain ⟨w, hw, hpath, hcost⟩ := hr hp
    rw [hcost, hpath, List.length_map, SimpleGraph.Walk.length_support, Nat.add_sub_cancel, hw]

end Plan

end Navigation
