import Navigation.Proofs.Replanning.Estimates
import Navigation.Replanning.Search

/-!
The invariant of the planner. Outside a set of cells that still wait for their update, `rhs` is what
it has to be and exactly the cells whose two costs differ are queued. Updating a cell takes it out of
the set; a change of `g` or of the map puts the cell and its neighbours in.
-/

namespace Navigation.Replanning.Planner

variable {width height : ℕ} {s s' s'' : Planner width height} {c d u : Cell width height}
  {P : Set (Cell width height)} {l l' : List (Cell width height)} {x y : ℕ∞ ×ₗ ℕ∞}

def Mends (I : Planner width height → Set (Cell width height) → Prop) : Prop :=
  ∀ s P c, I s P → I (s.update c) (P \ {c})

namespace Mends

variable {I : Planner width height → Set (Cell width height) → Prop}

lemma foldl_update (hI : Mends I) (h : I s P) (l : List (Cell width height)) :
    I (l.foldl Planner.update s) (P \ {d | d ∈ l}) := by
  induction l generalizing s P with
  | nil => simpa using h
  | cons c l ih =>
    have hset : P \ {d | d ∈ c :: l} = (P \ {c}) \ {d | d ∈ l} := by
      ext d
      simp only [List.mem_cons, Set.mem_sdiff, Set.mem_ofPred_eq, Set.mem_singleton_iff, not_or,
        and_assoc]
    rw [hset]
    exact ih (hI s P c h)

lemma updateNeighbors (hI : Mends I) (h : I s {d | d ∈ c.neighbors}) : I (s.updateNeighbors c) ∅ := by
  have hf := hI.foldl_update h c.neighbors
  rwa [Set.sdiff_self] at hf

lemma updated (hI : Mends I) (h : I s (insert c {d | d ∈ c.neighbors})) :
    I (s.update c) {d | d ∈ c.neighbors} := by
  have hu := hI s _ c h
  rwa [Set.insert_sdiff_self_of_notMem (show c ∉ {d | d ∈ c.neighbors} from c.not_mem_neighbors)] at hu

end Mends

/-- The cell is queued under a key that holds its cost and is no greater than its present key. An
old key can be smaller, but then the cost was already within reach of the last start. -/
structure Stored (s : Planner width height) (c : Cell width height) (x : ℕ∞ ×ₗ ℕ∞) : Prop where
  queued : s.queued c = some (Key.of x)
  cost : (ofLex x).2 = s.least c
  finite : s.least c ≠ ⊤
  le : (ofLex x).1 ≤ s.least c + s.lag c
  bounded : x = s.key c ∨ s.least c ≤ (width * height + s.moved : ℕ)

structure Coherent (s : Planner width height) (P : Set (Cell width height)) : Prop where
  exact : s.Exact
  goal : s.rhs s.goal = 0
  rhs : ∀ c ∉ P, s.rhs c = s.due c
  idle : ∀ c ∉ P, s.queued c = none ↔ s.g c = s.rhs c
  valid : s.queue.Valid
  stored : ∀ c key, s.queued c = some key → ∃ x, key = Key.of x ∧ s.Stored c x

namespace Stored

lemma le_key (h : s.Stored c x) : x ≤ s.key c := by
  rw [Prod.Lex.le_iff]
  rcases h.le.lt_or_eq with hlt | heq
  · exact Or.inl hlt
  · exact Or.inr ⟨heq, h.cost.le⟩

lemma exact (h : s.Stored c x) (hs : s.Exact) : Key.Exact x := by
  refine ⟨?_, by rw [h.cost]; exact hs.least_exact c⟩
  exact Exact.of_le (fun _ => h.le.trans (hs.first_le c h.finite)) hs.room

lemma unique (h : s.Stored c x) (h' : s.Stored c y) (hs : s.Exact) : x = y := by
  have he : Key.of x = Key.of y := Option.some.inj (h.queued.symm.trans h'.queued)
  refine le_antisymm ?_ ?_
  · rw [← Key.place_of_le (h.exact hs) (h'.exact hs), he]
  · rw [← Key.place_of_le (h'.exact hs) (h.exact hs), he]

end Stored

structure Alike (s s' : Planner width height) : Prop where
  start : s'.start = s.start
  goal : s'.goal = s.goal
  blocked : s'.blocked = s.blocked
  km : s'.km = s.km
  limits : s'.limits = s.limits

namespace Alike

lemma refl (s : Planner width height) : s.Alike s := ⟨rfl, rfl, rfl, rfl, rfl⟩

lemma trans (h : s.Alike s') (h' : s'.Alike s'') : s.Alike s'' :=
  ⟨h'.start.trans h.start, h'.goal.trans h.goal, h'.blocked.trans h.blocked, h'.km.trans h.km,
    h'.limits.trans h.limits⟩

lemma update (s : Planner width height) (c : Cell width height) : s.Alike (s.update c) :=
  ⟨start_update, goal_update, blocked_update, km_update, limits_update⟩

lemma foldl_update (s : Planner width height) (l : List (Cell width height)) :
    s.Alike (l.foldl Planner.update s) := by
  induction l generalizing s with
  | nil => exact refl s
  | cons c l ih => exact (update s c).trans (ih (s.update c))

lemma moved (h : s.Alike s') : s'.moved = s.moved := by rw [Planner.moved, h.km, Planner.moved]

lemma lag (h : s.Alike s') : s'.lag c = s.lag c := by rw [Planner.lag, h.start, h.moved, Planner.lag]

lemma graph (h : s.Alike s') : s'.graph = s.graph := by rw [Planner.graph, h.blocked, Planner.graph]

lemma stored (h : s.Alike s') (hl : s'.least c = s.least c) (hq : s'.queued c = s.queued c)
    (hs : s.Stored c x) : s'.Stored c x where
  queued := hq.trans hs.queued
  cost := hs.cost.trans hl.symm
  finite := by rw [hl]; exact hs.finite
  le := by rw [hl, h.lag]; exact hs.le
  bounded := by
    rw [key, hl, h.lag, h.moved]
    exact hs.bounded

end Alike

lemma stored_key (hq : s.queued c = some (Key.of (s.key c))) (hf : s.least c ≠ ⊤) :
    s.Stored c (s.key c) :=
  ⟨hq, rfl, hf, le_rfl, Or.inl rfl⟩

lemma least_ne_top (h : s.g c ≠ s.rhs c) : s.least c ≠ ⊤ := by
  intro htop
  rw [least, min_eq_top] at htop
  exact h (htop.1.trans htop.2.symm)

structure Refreshes (l : List (Cell width height)) (s s' : Planner width height) : Prop
    extends Alike s s' where
  g : ∀ d, s'.g d = s.g d
  rhs : ∀ d ∉ l, s'.rhs d = s.rhs d
  queued : ∀ d ∉ l, s'.queued d = s.queued d
  fresh : ∀ d ∈ l, ∀ key, s'.queued d = some key → key = Key.of (s'.key d)

namespace Coherent

lemma update (h : s.Coherent P) (c : Cell width height) : (s.update c).Coherent (P \ {c}) := by
  have hr (d : Cell width height) := h.exact.rhs_update (d := d) h.goal c
  have hq := h.exact.queued_update_self h.goal c
  constructor
  · exact h.exact.update h.goal c
  · rw [goal_update, hr]
    split
    · rw [due, ahead_goal]
    · exact h.goal
  · intro d hd
    rw [hr, due_update]
    split
    · rfl
    · rename_i hne
      exact h.rhs d fun hp => hd ⟨hp, hne⟩
  · intro d hd
    rw [g_update, hr]
    by_cases hne : d = c
    · subst d
      rw [hq, if_pos rfl]
      split
      · rename_i he
        exact iff_of_true rfl he
      · rename_i he
        exact iff_of_false (Option.some_ne_none _) he
    · rw [queued_update_of_ne hne, if_neg hne]
      exact h.idle d fun hp => hd ⟨hp, hne⟩
  · exact valid_update h.valid
  · intro d key hd
    by_cases hne : d = c
    · subst d
      rw [hq] at hd
      split at hd
      · cases hd
      · rename_i he
        have hf : (s.update c).least c ≠ ⊤ := least_ne_top (by rwa [g_update, hr, if_pos rfl])
        exact ⟨_, (Option.some.inj hd).symm, stored_key (by rw [hq, if_neg he]) hf⟩
    · rw [queued_update_of_ne hne] at hd
      obtain ⟨x, hx, hs⟩ := h.stored d key hd
      have hl : (s.update c).least d = s.least d := by rw [least, g_update, hr, if_neg hne, least]
      exact ⟨x, hx, (Alike.update s c).stored hl (queued_update_of_ne hne) hs⟩

lemma refreshes_update (h : s.Coherent P) (c : Cell width height) : Refreshes [c] s (s.update c) where
  toAlike := Alike.update s c
  g d := g_update
  rhs d hd := by rw [h.exact.rhs_update h.goal, if_neg (by simpa using hd)]
  queued d hd := queued_update_of_ne (by simpa using hd)
  fresh d hd key hk := by
    rw [List.mem_singleton] at hd
    subst d
    rw [h.exact.queued_update_self h.goal] at hk
    split at hk
    · cases hk
    · exact (Option.some.inj hk).symm

end Coherent

namespace Refreshes

lemma nil (s : Planner width height) : Refreshes [] s s where
  toAlike := Alike.refl s
  g _ := rfl
  rhs _ _ := rfl
  queued _ _ := rfl
  fresh _ hd := absurd hd List.not_mem_nil

lemma append (h : Refreshes l s s') (h' : Refreshes l' s' s'') : Refreshes (l ++ l') s s'' where
  toAlike := h.toAlike.trans h'.toAlike
  g d := (h'.g d).trans (h.g d)
  rhs d hd := by
    rw [List.mem_append, not_or] at hd
    exact (h'.rhs d hd.2).trans (h.rhs d hd.1)
  queued d hd := by
    rw [List.mem_append, not_or] at hd
    exact (h'.queued d hd.2).trans (h.queued d hd.1)
  fresh d hd key hk := by
    by_cases hl : d ∈ l'
    · exact h'.fresh d hl key hk
    · rw [h'.queued d hl] at hk
      have hf := h.fresh d ((List.mem_append.mp hd).resolve_right hl) key hk
      rw [hf, Planner.key, Planner.key, h'.toAlike.lag, least, least, h'.g d, h'.rhs d hl]

end Refreshes

namespace Coherent

lemma mends : Mends fun s : Planner width height => s.Coherent := fun _ _ c h => h.update c

lemma refreshes_foldl_update (h : s.Coherent P) (l : List (Cell width height)) :
    Refreshes l s (l.foldl Planner.update s) := by
  induction l generalizing s P with
  | nil => exact Refreshes.nil s
  | cons c l ih => exact (h.refreshes_update c).append (ih (h.update c))

lemma updateNeighbors (h : s.Coherent {d | d ∈ c.neighbors}) :
    (s.updateNeighbors c).Coherent ∅ ∧ Refreshes c.neighbors s (s.updateNeighbors c) :=
  ⟨mends.updateNeighbors h, h.refreshes_foldl_update c.neighbors⟩

lemma drop (h : s.Coherent (insert c P)) (hr : s.rhs c = s.due c)
    (hi : s.queued c = none ↔ s.g c = s.rhs c) : s.Coherent P where
  exact := h.exact
  goal := h.goal
  rhs d hd := by
    by_cases hc : d = c
    · rwa [hc]
    · exact h.rhs d (by simp [hc, hd])
  idle d hd := by
    by_cases hc : d = c
    · rwa [hc]
    · exact h.idle d (by simp [hc, hd])
  valid := h.valid
  stored := h.stored

lemma updated (h : s.Coherent (insert c {d | d ∈ c.neighbors})) :
    (s.update c).Coherent {d | d ∈ c.neighbors} :=
  mends.updated h

end Coherent

lemma costAt_setG {v : Float} :
    (s.setG c v).costAt d = if d = c then { s.costAt c with g := v } else s.costAt d :=
  Table.lookup_put _ _ _ _

namespace Exact

variable {v : ℕ∞}

lemma views_setG (h : s.Exact) (hv : v ≠ ⊤ → v ≤ (width * height + s.moved : ℕ)) :
    (s.setG c (Cost.toFloat v)).g d = (if d = c then v else s.g d) ∧
      (s.setG c (Cost.toFloat v)).rhs d = s.rhs d := by
  have hcost := costAt_setG (s := s) (c := c) (d := d) (v := Cost.toFloat v)
  rw [h.costs c, h.costs d] at hcost
  split at hcost
  · rename_i hd
    subst d
    rw [if_pos rfl]
    exact views_of_costAt hcost (of_le hv (by have := h.room; omega)) (h.rhs_exact c)
  · rename_i hd
    rw [if_neg hd]
    exact views_of_costAt hcost (h.g_exact d) (h.rhs_exact d)

lemma setG (h : s.Exact) (hv : v ≠ ⊤ → v ≤ (width * height + s.moved : ℕ)) :
    (s.setG c (Cost.toFloat v)).Exact where
  room := h.room
  km := h.km
  costs d := by
    obtain ⟨hg, hr⟩ := h.views_setG (c := c) (d := d) hv
    rw [hg, hr, costAt_setG]
    split
    · rename_i hd
      rw [h.costs c, hd]
    · exact h.costs d
  g_le d := by
    rw [(h.views_setG (c := c) (d := d) hv).1]
    split
    · exact hv
    · exact h.g_le d
  rhs_le d := by
    rw [(h.views_setG (c := c) (d := d) hv).2]
    exact h.rhs_le d

end Exact

lemma not_adj_self : ¬ s.graph.Adj c c := s.graph.loopless.irrefl c

lemma mem_neighbors_of_adj (h : s.graph.Adj c d) : c ∈ d.neighbors := Cell.mem_neighbors_comm.mp h.1

lemma Coherent.setG (h : s.Coherent {c}) (hr : s.rhs c = s.due c) (hq : s.queued c = none) {v : ℕ∞}
    (hv : v ≠ ⊤ → v ≤ (width * height + s.moved : ℕ)) :
    (s.setG c (Cost.toFloat v)).Coherent (insert c {d | d ∈ c.neighbors}) ∧
      (s.setG c (Cost.toFloat v)).rhs c = (s.setG c (Cost.toFloat v)).due c := by
  have hviews (d : Cell width height) := h.exact.views_setG (c := c) (d := d) hv
  have hdue (d : Cell width height) (hd : d ∉ c.neighbors) :
      (s.setG c (Cost.toFloat v)).due d = s.due d := by
    refine ahead_congr fun e he => ?_
    rw [(hviews e).1, if_neg]
    rintro rfl
    exact hd (mem_neighbors_of_adj (s := s) he)
  refine ⟨?_, by rw [hdue c c.not_mem_neighbors, (hviews c).2, hr]⟩
  constructor
  · exact h.exact.setG hv
  · exact (hviews _).2.trans h.goal
  · intro d hd
    rw [Set.mem_insert_iff, not_or] at hd
    rw [hdue d hd.2, (hviews d).2, h.rhs d hd.1]
  · intro d hd
    rw [Set.mem_insert_iff, not_or] at hd
    rw [(hviews d).1, (hviews d).2, if_neg hd.1]
    exact h.idle d hd.1
  · exact h.valid
  · intro d key hd
    have hne : d ≠ c := by
      rintro rfl
      cases hq.symm.trans hd
    obtain ⟨x, hx, hs⟩ := h.stored d key hd
    have hl : (s.setG c (Cost.toFloat v)).least d = s.least d := by
      rw [least, (hviews d).1, (hviews d).2, if_neg hne, least]
    have ha : s.Alike (s.setG c (Cost.toFloat v)) := ⟨rfl, rfl, rfl, rfl, rfl⟩
    exact ⟨x, hx, ha.stored hl rfl hs⟩

end Navigation.Replanning.Planner
