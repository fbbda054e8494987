import Navigation.Proofs.Grid.Roads
import Navigation.Proofs.Replanning.Lookahead
import Navigation.Proofs.Replanning.Queue
import Navigation.Replanning.Planner

/-! The costs of a planner as whole numbers or infinity. -/

namespace Navigation.Replanning.Planner

variable {width height : ℕ} {s s' : Planner width height} {c d : Cell width height}

noncomputable section

def g (s : Planner width height) (c : Cell width height) : ℕ∞ := Cost.value (s.costAt c).g

def rhs (s : Planner width height) (c : Cell width height) : ℕ∞ := Cost.value (s.costAt c).rhs

def least (s : Planner width height) (c : Cell width height) : ℕ∞ := min (s.g c) (s.rhs c)

def moved (s : Planner width height) : ℕ := (Cost.value s.km).toNat

def queued (s : Planner width height) (c : Cell width height) : Option Key := s.queue.keys.lookup c

def graph (s : Planner width height) : SimpleGraph (Cell width height) := roads s.blocked

def due (s : Planner width height) (c : Cell width height) : ℕ∞ := ahead s.graph s.goal s.g c

def lag (s : Planner width height) (c : Cell width height) : ℕ :=
  c.toPoint.manhattan s.start.toPoint + s.moved

def key (s : Planner width height) (c : Cell width height) : ℕ∞ ×ₗ ℕ∞ :=
  toLex (s.least c + s.lag c, s.least c)

lemma update_eq (s : Planner width height) (c : Cell width height) :
    s.update c =
      { s with
        costs := s.costs.put c { s.costAt c with rhs := s.lookahead c }
        queue :=
          if ((s.setRhs c (s.lookahead c)).costAt c).consistent then s.queue.remove c
          else (s.queue.remove c).insert c ((s.setRhs c (s.lookahead c)).keyOf c) } := by
  have hd : (((s.setRhs c (s.lookahead c)).dequeue c).costAt c).consistent =
      ((s.setRhs c (s.lookahead c)).costAt c).consistent := rfl
  rw [update, enqueue, hd]
  split <;> rfl

@[simp] lemma start_update : (s.update c).start = s.start := by rw [update_eq]

@[simp] lemma goal_update : (s.update c).goal = s.goal := by rw [update_eq]

@[simp] lemma blocked_update : (s.update c).blocked = s.blocked := by rw [update_eq]

@[simp] lemma km_update : (s.update c).km = s.km := by rw [update_eq]

@[simp] lemma limits_update : (s.update c).limits = s.limits := by rw [update_eq]

@[simp] lemma moved_update : (s.update c).moved = s.moved := by rw [moved, km_update, moved]

@[simp] lemma graph_update : (s.update c).graph = s.graph := by rw [graph, blocked_update, graph]

lemma costAt_update : (s.update c).costAt d =
    if d = c then { s.costAt c with rhs := s.lookahead c } else s.costAt d := by
  rw [update_eq]
  exact Table.lookup_put _ _ _ _

lemma g_costAt_update : ((s.update c).costAt d).g = (s.costAt d).g := by
  rw [costAt_update]
  split
  · rename_i h
    rw [h]
  · rfl

@[simp] lemma g_update : (s.update c).g d = s.g d := by rw [g, g_costAt_update, g]

@[simp] lemma due_update : (s.update c).due d = s.due d := by
  rw [due, graph_update, goal_update, due, ahead_congr fun _ _ => g_update]

lemma queued_update_of_ne (h : d ≠ c) : (s.update c).queued d = s.queued d := by
  have hr : (s.queue.remove c).keys.lookup d = s.queued d := by rw [Queue.keys_remove, if_neg h, queued]
  rw [update_eq]
  unfold queued at hr ⊢
  dsimp only
  split
  · exact hr
  · rw [Queue.keys_insert, if_neg h, hr]

lemma queue_update : (s.update c).queue =
    if ((s.update c).costAt c).consistent then s.queue.remove c
    else (s.queue.remove c).insert c ((s.update c).keyOf c) := by
  rw [update_eq]
  rfl

lemma queued_update_self : (s.update c).queued c =
    if ((s.update c).costAt c).consistent then none else some ((s.update c).keyOf c) := by
  rw [queued, queue_update]
  split
  · rw [Queue.keys_remove, if_pos rfl]
  · rw [Queue.keys_insert, if_pos rfl]

lemma valid_update (h : s.queue.Valid) : (s.update c).queue.Valid := by
  have hr : (s.queue.remove c).keys.lookup c = none := by rw [Queue.keys_remove, if_pos rfl]
  rw [update_eq]
  dsimp only
  split
  · exact h.remove c
  · exact (h.remove c).insert hr _

structure Exact (s : Planner width height) : Prop where
  room : width * height + (width + height) + 2 * s.moved < 2 ^ 53
  km : s.km = Float.ofNat s.moved
  costs : ∀ c, s.costAt c = ⟨Cost.toFloat (s.g c), Cost.toFloat (s.rhs c)⟩
  g_le : ∀ c, s.g c ≠ ⊤ → s.g c ≤ (width * height + s.moved : ℕ)
  rhs_le : ∀ c, s.rhs c ≠ ⊤ → s.rhs c ≤ (width * height + s.moved + 1 : ℕ)

lemma views_of_costAt {a b : ℕ∞} (h : s.costAt c = ⟨Cost.toFloat a, Cost.toFloat b⟩)
    (ha : Cost.Exact a) (hb : Cost.Exact b) : s.g c = a ∧ s.rhs c = b := by
  rw [g, rhs, h, Cost.value_toFloat ha, Cost.value_toFloat hb]
  exact ⟨rfl, rfl⟩

namespace Exact

lemma of_le {x : ℕ∞} {n : ℕ} (hx : x ≠ ⊤ → x ≤ n) (hn : n < 2 ^ 53) : Cost.Exact x := by
  by_cases h : x = ⊤
  · rw [h]
    exact Cost.exact_top
  · exact Cost.exact_of_le (Cost.exact_coe.mpr hn) (ENat.natCast_ne_top n) (hx h)

variable (h : s.Exact)

include h

lemma g_exact (c : Cell width height) : Cost.Exact (s.g c) :=
  of_le (h.g_le c) (by have := h.room; omega)

lemma rhs_exact (c : Cell width height) : Cost.Exact (s.rhs c) :=
  of_le (h.rhs_le c) (by have := c.inside.1; have := h.room; omega)

lemma least_le (c : Cell width height) (hc : s.least c ≠ ⊤) :
    s.least c ≤ (width * height + s.moved + 1 : ℕ) := by
  rcases min_choice (s.g c) (s.rhs c) with hm | hm
  · rw [least, hm] at hc ⊢
    exact (h.g_le c hc).trans (Nat.cast_le.mpr (Nat.le_succ _))
  · rw [least, hm] at hc ⊢
    exact h.rhs_le c hc

lemma least_exact (c : Cell width height) : Cost.Exact (s.least c) :=
  of_le (h.least_le c) (by have := c.inside.1; have := h.room; omega)

lemma first_le (c : Cell width height) (hc : s.least c ≠ ⊤) :
    s.least c + s.lag c ≤ (width * height + (width + height) + 2 * s.moved : ℕ) := by
  have hm := c.manhattan_lt s.start
  refine (add_le_add_left (h.least_le c hc) _).trans ?_
  rw [← Nat.cast_add, lag]
  exact Nat.cast_le.mpr (by omega)

lemma key_exact (c : Cell width height) : Key.Exact (s.key c) := by
  refine ⟨of_le (fun hc => h.first_le c fun htop => hc ?_) h.room, h.least_exact c⟩
  change s.least c + s.lag c = ⊤
  rw [htop, top_add]

lemma least_eq (c : Cell width height) : (s.costAt c).least = Cost.toFloat (s.least c) := by
  rw [h.costs c, Costs.least, least, min_comm]
  dsimp only
  rw [Cost.toFloat_min (h.rhs_exact c) (h.g_exact c)]

lemma consistent_iff (c : Cell width height) : (s.costAt c).consistent = true ↔ s.g c = s.rhs c := by
  rw [h.costs c, Costs.consistent]
  dsimp only
  exact Cost.toFloat_beq (h.g_exact c) (h.rhs_exact c)

lemma first_eq (c : Cell width height) :
    (s.costAt c).least + distance c s.start + s.km = Cost.toFloat (s.least c + s.lag c) := by
  have hm := c.manhattan_lt s.start
  have hlag := (h.key_exact c).1
  have hroom := h.room
  change Cost.Exact (s.least c + s.lag c) at hlag
  rw [lag, Nat.cast_add, ← add_assoc] at hlag
  have hfirst : Cost.Exact (s.least c + (c.toPoint.manhattan s.start.toPoint : ℕ)) := by
    intro n hn
    rw [hn, ← Nat.cast_add, Cost.exact_coe] at hlag
    omega
  rw [h.least_eq c, h.km, distance, Cost.toFloat_add (by omega) hfirst,
    Cost.toFloat_add (by omega) hlag, lag, Nat.cast_add, ← add_assoc]

lemma keyOf_eq (c : Cell width height) : s.keyOf c = Key.of (s.key c) := by
  rw [keyOf, h.first_eq c, h.least_eq c]
  rfl

lemma due_le (c : Cell width height) (hc : s.due c ≠ ⊤) :
    s.due c ≤ (width * height + s.moved + 1 : ℕ) := by
  by_cases hg : c = s.goal
  · rw [hg, due, ahead_goal]
    exact zero_le
  obtain ⟨d, -, hd⟩ := exists_ahead_eq hg hc
  have hne : s.g d ≠ ⊤ := by
    intro htop
    rw [htop, top_add] at hd
    exact hc hd
  rw [due, hd]
  calc s.g d + 1 ≤ (width * height + s.moved : ℕ) + 1 := add_le_add_left (h.g_le d hne) 1
    _ = (width * height + s.moved + 1 : ℕ) := by rw [Nat.cast_add _ 1, Nat.cast_one]

lemma due_exact (c : Cell width height) : Cost.Exact (s.due c) :=
  of_le (h.due_le c) (by have := c.inside.1; have := h.room; omega)

lemma succ_exact (c : Cell width height) : Cost.Exact (s.g c + 1) := by
  intro n hn
  have hne : s.g c ≠ ⊤ := by
    intro htop
    rw [htop, top_add] at hn
    exact ENat.top_ne_natCast n hn
  have hle := add_le_add_left (h.g_le c hne) 1
  rw [hn, ← Nat.cast_one, ← Nat.cast_add] at hle
  have := Nat.cast_le.mp hle
  have := c.inside.1
  have := h.room
  omega

omit h in
lemma foldl_min {α : Type} (f : α → ℕ∞) (l : List α) (a : ℕ∞) :
    l.foldl (fun m x => min (f x) m) a = min (⨅ x, ⨅ _ : x ∈ l, f x) a := by
  induction l generalizing a with
  | nil => simp
  | cons x l ih =>
    rw [List.foldl_cons, ih]
    simp only [List.mem_cons, iInf_or, iInf_inf_eq, iInf_iInf_eq_left]
    rw [← min_assoc, min_comm (f x)]

lemma foldl_eq (l : List (Cell width height)) {a : ℕ∞} (ha : Cost.Exact a) :
    l.foldl (fun least n =>
      let cost := (s.costAt n).g + stepCost
      if cost < least then cost else least) (Cost.toFloat a) =
      Cost.toFloat (l.foldl (fun m n => min (s.g n + 1) m) a) := by
  induction l generalizing a with
  | nil => rfl
  | cons n l ih =>
    have hstep : (s.costAt n).g + stepCost = Cost.toFloat (s.g n + 1) := by
      have hone : stepCost = Float.ofNat 1 := rfl
      have hsum := h.succ_exact n
      rw [← Nat.cast_one] at hsum ⊢
      rw [h.costs n, hone]
      dsimp only
      exact Cost.toFloat_add (by omega) hsum
    have hmin : Cost.Exact (min (s.g n + 1) a) := by
      rcases min_choice (s.g n + 1) a with hm | hm <;> rw [hm]
      · exact h.succ_exact n
      · exact ha
    rw [List.foldl_cons, List.foldl_cons, ← ih hmin]
    dsimp only
    rw [hstep, Cost.toFloat_min (h.succ_exact n) ha]

omit h in
lemma due_eq (hgoal : s.rhs s.goal = 0) (c : Cell width height) :
    s.due c = if c = s.goal then s.rhs c
      else if s.isFree c then (c.neighbors.filter s.isFree).foldl (fun m n => min (s.g n + 1) m) ⊤
      else ⊤ := by
  split
  · rename_i hc
    rw [hc, hgoal, due, ahead_goal]
  · rename_i hc
    split
    · rename_i hfree
      have hmem (d : Cell width height) : d ∈ c.neighbors.filter s.isFree ↔ s.graph.Adj c d := by
        rw [isFree, Bool.not_eq_true'] at hfree
        rw [List.mem_filter, isFree, Bool.not_eq_true']
        exact ⟨fun hd => ⟨hd.1, hfree, hd.2⟩, fun hd => ⟨hd.1, hd.2.2⟩⟩
      rw [foldl_min, min_eq_left le_top, due, ahead, if_neg hc]
      exact iInf_congr fun d => iInf_congr_Prop (hmem d).symm fun _ => rfl
    · rename_i hfree
      refine ahead_eq_top (fun d hd => hfree ?_) hc
      rw [isFree, hd.2.1]
      rfl

lemma lookahead_eq (hgoal : s.rhs s.goal = 0) (c : Cell width height) :
    s.lookahead c = Cost.toFloat (s.due c) := by
  rw [lookahead, due_eq hgoal]
  split
  · rw [h.costs c]
  · split
    · rw [throughNeighbors, ← Cost.toFloat_top, h.foldl_eq _ Cost.exact_top]
    · rw [Cost.toFloat_top]

lemma costAt_update (hgoal : s.rhs s.goal = 0) (c : Cell width height) :
    (s.update c).costAt d = if d = c then ⟨Cost.toFloat (s.g c), Cost.toFloat (s.due c)⟩
      else ⟨Cost.toFloat (s.g d), Cost.toFloat (s.rhs d)⟩ := by
  rw [Planner.costAt_update, h.lookahead_eq hgoal, h.costs c, h.costs d]

lemma rhs_update (hgoal : s.rhs s.goal = 0) (c : Cell width height) :
    (s.update c).rhs d = if d = c then s.due d else s.rhs d := by
  have hd := h.costAt_update (d := d) hgoal c
  split
  · rename_i he
    subst d
    rw [if_pos rfl] at hd
    exact (views_of_costAt hd (h.g_exact c) (h.due_exact c)).2
  · rename_i hne
    rw [if_neg hne] at hd
    exact (views_of_costAt hd (h.g_exact d) (h.rhs_exact d)).2

lemma update (hgoal : s.rhs s.goal = 0) (c : Cell width height) : (s.update c).Exact where
  room := by simpa using h.room
  km := by simpa using h.km
  costs d := by
    rw [g_update, h.rhs_update hgoal, h.costAt_update hgoal]
    split
    · rename_i hd
      rw [hd]
    · rfl
  g_le d := by simpa using h.g_le d
  rhs_le d := by
    rw [h.rhs_update hgoal, moved_update]
    split
    · exact h.due_le d
    · exact h.rhs_le d

lemma queued_update_self (hgoal : s.rhs s.goal = 0) (c : Cell width height) :
    (s.update c).queued c =
      if s.g c = s.due c then none else some (Key.of ((s.update c).key c)) := by
  have hu := h.update hgoal c
  have hc := hu.consistent_iff c
  rw [g_update, h.rhs_update hgoal, if_pos rfl] at hc
  rw [Planner.queued_update_self, hu.keyOf_eq c]
  simp only [hc]

end Exact

end

end Navigation.Replanning.Planner
