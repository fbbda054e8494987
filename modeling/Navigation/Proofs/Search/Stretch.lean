import Navigation.Proofs.Search.Charges

/-! Straight moves and a whole weight on the Manhattan distance. -/

namespace Navigation.Search

variable {width height weight m n : ℕ} {blocked : Table height width Bool}
  {start goal c : Cell width height} {path path' : List (Cell width height)} {x y : Float}

lemma ofNat_lt_ofNat (hm : m < 2 ^ 53) (hn : n < 2 ^ 53) : Float.ofNat m < Float.ofNat n ↔ m < n := by
  rw [← Cost.toFloat_coe, ← Cost.toFloat_coe,
    Cost.toFloat_lt (Cost.exact_coe.mpr hm) (Cost.exact_coe.mpr hn), Nat.cast_lt]

lemma Route.eq_length (h : Route (moves blocked false) start c path x) (hsize : width * height < 2 ^ 53) :
    path ≠ [] ∧ x = Float.ofNat (path.length - 1) := by
  induction h with
  | home =>
    have hzero : (0.0 : Float) = Float.ofNat 0 := rfl
    exact ⟨List.cons_ne_nil _ _, hzero⟩
  | @next c d path x s hr hm hd ih =>
    obtain ⟨hne, rfl⟩ := ih
    have hs : s = Float.ofNat 1 := by
      have hone : s = 1.0 := by
        simp [moves] at hm
        exact hm.2.symm
      exact hone
    have hpos := List.length_pos_iff.mpr hne
    have hlen := (hr.next hm hd).length_le
    rw [List.length_append, List.length_singleton] at hlen ⊢
    refine ⟨by simp, ?_⟩
    rw [hs, Whole.add_ofNat (by omega)]
    congr 1
    omega

variable {hypot : Float → Float → Float}

lemma apart_straight (hroom : Room width height weight) :
    Apart (moves blocked false) (Query.straight blocked start goal weight hypot).estimate start := by
  intro c path path' x y hr hr' hlt
  have hsize := hroom.size_lt
  have hlen := hr.length_le
  have hlen' := hr'.length_le
  obtain ⟨-, rfl⟩ := hr.eq_length hsize
  obtain ⟨-, rfl⟩ := hr'.eq_length hsize
  rw [ofNat_lt_ofNat (by omega) (by omega)] at hlt
  rw [Query.estimate_straight hroom c]
  by_contra hle
  have hrank : (Node.whole weight goal (path'.length - 1) c).total.rank ≤
      (Node.whole weight goal (path.length - 1) c).total.rank := not_lt.mp hle
  have htotal := hroom.total_le (by omega) (by omega) hrank
  omega

namespace Progress

variable {p : Progress width height} {u : Cell width height} {estimate : Point → Float} {rounds : ℕ}

lemma Sound.near_closings (hroom : Room width height weight) (hfree : blocked.lookup start = false)
    (hest : ∀ d : Cell width height, estimate d.toPoint = Float.ofNat (toGoal weight goal d))
    (h : Sound blocked start goal weight p u ∅) :
    ∀ e ∈ closings (moves blocked false) estimate goal rounds p, ∃ n < 2 ^ 53,
      e.1.cost.toFloat = Float.ofNat n ∧ (roads blocked).edist start e.1.cell ≤ n ∧
        ∀ m : ℕ, (roads blocked).edist start e.1.cell = m → n ≤ max 1 weight * m := by
  refine forall_closings (I := fun p => ∃ u, Sound blocked start goal weight p u ∅) ?_ ⟨u, h⟩
  rintro p node rest ⟨u, h⟩ ht
  refine ⟨?_, _, (h.round hroom hfree hest ht).1⟩
  obtain ⟨-, n, hn, hnode, hk, hnear⟩ := h.head hroom ht
  have hlt := hroom.total_lt (hn.trans h.explored_le) goal goal
  have hreach := h.reach node.cell
  rw [hk] at hreach
  refine ⟨n, by omega, ?_, hreach, hnear⟩
  rw [hnode]
  exact Cost.toFloat_ofFloat (by omega)

end Progress

namespace Query

lemma setWeight_ofNat (q : Query) (h : weight < 2 ^ 53) :
    q.setWeight (Float.ofNat weight) = { q with weight := Float.ofNat weight } := by
  have hzero : (0.0 : Float) = Float.ofNat 0 := rfl
  have hpos : (0.0 : Float) < Float.ofNat weight ↔ 0 < weight := by
    rw [hzero]
    exact ofNat_lt_ofNat (by norm_num) h
  unfold setWeight
  congr 1
  split
  · rfl
  · rename_i hw
    rw [hpos, Nat.pos_iff_ne_zero, not_not] at hw
    rw [hw, hzero]

lemma eq_straight {q : Query} {start goal : Cell q.grid.width q.grid.height} (hs : start.toPoint = q.start)
    (hg : goal.toPoint = q.goal) (hd : q.diagonal = false) (hh : q.heuristic = .manhattan) :
    { q with weight := Float.ofNat weight } = straight q.grid.blocked start goal weight q.hypot := by
  rw [straight, hs, hg, ← hd, ← hh]

lemma cost_straight (hroom : Room width height weight) (hs : blocked.lookup start = false)
    (hg : blocked.lookup goal = false) (h : (straight blocked start goal weight hypot).plan.success = true) :
    let a := (straight blocked start goal weight hypot).plan
    (roads blocked).Reachable start goal ∧ a.cost = Float.ofNat (a.path.length - 1) ∧
      (roads blocked).dist start goal ≤ a.path.length - 1 ∧
      a.path.length - 1 ≤ max 1 weight * (roads blocked).dist start goal := by
  have hest (c : Cell width height) : (straight blocked start goal weight hypot).estimate c.toPoint =
      Float.ofNat (toGoal weight goal c) := estimate_straight hroom c
  have hsize := hroom.size_lt
  have hsound : Progress.Sound blocked start goal weight
      (Progress.start (straight blocked start goal weight hypot).estimate start) start ∅ :=
    Progress.sound_start hroom (hest start)
  have ho := Progress.outcome_start (moves blocked false) (straight blocked start goal weight hypot).estimate
    start goal
  rw [← plan_of_free hs hg] at ho
  obtain ⟨path, x, hpath, hr, -, ⟨e, he, rfl, hcost⟩, hx⟩ := ho.found h
  obtain ⟨n, hn, hcn, hle, hnear⟩ := hsound.near_closings hroom hs hest e he
  have hcx := hx (fun a ha => (List.not_mem_nil ha).elim) fun e he _ =>
    Progress.fresh_closings (apart_straight hroom) _ _ e he
  obtain ⟨-, rfl⟩ := hr.eq_length hsize
  have hlen := hr.length_le
  have hnlen : n = path.length - 1 := by
    have heq : Float.ofNat n = Float.ofNat (path.length - 1) := by rw [← hcn, ← hcost, hcx]
    rw [← Cost.toFloat_coe, ← Cost.toFloat_coe] at heq
    exact Nat.cast_inj.mp
      (Cost.toFloat_injective (Cost.exact_coe.mpr hn) (Cost.exact_coe.mpr (by omega)) heq)
  have hreach : (roads blocked).Reachable start e.1.cell :=
    SimpleGraph.edist_ne_top_iff_reachable.mp (ne_top_of_le_ne_top (ENat.natCast_ne_top n) hle)
  dsimp only
  rw [hpath, List.length_map, ← hnlen]
  rw [← hreach.coe_dist_eq_edist] at hle
  exact ⟨hreach, hcost.trans hcn, Nat.cast_le.mp hle, hnear _ hreach.coe_dist_eq_edist.symm⟩

/-- With straight moves and the Manhattan distance times a whole number small enough for exact sums, the
cost of a route is the number of its steps, and at most the weight times the distance; with no weight or
weight one it is the distance. -/
theorem cost_within_weight (q : Query) (weight : ℕ) (hdiagonal : q.diagonal = false)
    (hheuristic : q.heuristic = .manhattan) (hroom : Room q.grid.width q.grid.height weight)
    (h : (q.setWeight (Float.ofNat weight)).plan.success = true) :
    let a := (q.setWeight (Float.ofNat weight)).plan
    ∃ start goal : Cell q.grid.width q.grid.height, start.toPoint = q.start ∧ goal.toPoint = q.goal ∧
      (roads q.grid.blocked).Reachable start goal ∧ a.cost = Float.ofNat (a.path.length - 1) ∧
      (roads q.grid.blocked).dist start goal ≤ a.path.length - 1 ∧
      a.path.length - 1 ≤ max 1 weight * (roads q.grid.blocked).dist start goal ∧
      (weight ≤ 1 → a.path.length - 1 = (roads q.grid.blocked).dist start goal) := by
  rcases (q.setWeight (Float.ofNat weight)).plan_cases with ⟨start, goal, hs, hg, -⟩ | ⟨-, hp, -⟩
  · obtain ⟨hs, hsf⟩ := freeCell?_eq_some.mp hs
    obtain ⟨hg, hgf⟩ := freeCell?_eq_some.mp hg
    rw [← hs, Grid.isBlocked_toPoint] at hsf
    rw [← hg, Grid.isBlocked_toPoint] at hgf
    have hq : q.setWeight (Float.ofNat weight) = straight q.grid.blocked start goal weight q.hypot := by
      rw [setWeight_ofNat q (hroom.weight_lt start)]
      exact eq_straight hs hg hdiagonal hheuristic
    rw [hq] at h ⊢
    obtain ⟨hreach, hcost, hge, hle⟩ := cost_straight hroom hsf hgf h
    refine ⟨start, goal, hs, hg, hreach, hcost, hge, hle, fun hw => le_antisymm ?_ hge⟩
    rwa [max_eq_left hw, one_mul] at hle
  · rw [hp] at h
    exact (Bool.false_ne_true h).elim

def around : Query where
  grid := Grid.block ⟨3, 3, Table.uniform false⟩ ⟨1, 1⟩
  goal := ⟨2, 2⟩
  heuristic := .manhattan
  diagonal := false

theorem cost_around :
    let a := (around.setWeight (Float.ofNat 2)).plan
    a.success = true ∧ a.cost = Float.ofNat (a.path.length - 1) := by
  have hs : (around.setWeight (Float.ofNat 2)).plan.success = true := by decide +kernel
  have hroom : Room around.grid.width around.grid.height 2 := by
    change 3 * 3 + 2 * (3 + 3) < 2 ^ 53
    norm_num
  obtain ⟨-, -, -, -, -, hcost, -⟩ := cost_within_weight around 2 rfl rfl hroom hs
  exact ⟨hs, hcost⟩

end Query

end Navigation.Search
