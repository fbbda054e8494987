import Navigation.Proofs.Search.Moves

/-! The cost of an answer and the charge of its path. -/

namespace Navigation.Search

variable {width height : ℕ} {moves : Moves width height} {estimate : Point → Float}
  {start c d u : Cell width height} {s : Float}

def Apart (moves : Moves width height) (estimate : Point → Float) (start : Cell width height) : Prop :=
  ∀ (c : Cell width height) (path path' : List (Cell width height)) (x y : Float),
    Route moves start c path x → Route moves start c path' y → x < y →
      (Node.of x (estimate c.toPoint) c).total.rank < (Node.of y (estimate c.toPoint) c).total.rank

namespace Progress

variable {p : Progress width height} {node : Node width height} {rest log : List (Node width height)}
  {todo : List (Cell width height × Float)} {move : Cell width height × Float}

structure Ranked (estimate : Point → Float) (start : Cell width height) (p : Progress width height) :
    Prop where
  sorted : p.opened.Pairwise fun a b => a.total.rank ≤ b.total.rank
  total : ∀ a ∈ p.opened, a.cell ≠ start →
    a.total = (Node.of a.cost.toFloat (estimate a.cell.toPoint) a.cell).total
  best : ∀ a ∈ p.opened, p.closed.lookup a.cell = false →
    ∃ b ∈ p.opened, b.cell = a.cell ∧ p.Fresh b ∧ (a = b ∨ b.total.rank < a.total.rank)

section Reopen

variable {x : Float}

lemma pairwise_reopen (h : p.opened.Pairwise fun a b => a.total.rank ≤ b.total.rank) :
    (p.reopen estimate u d x).opened.Pairwise fun a b => a.total.rank ≤ b.total.rank :=
  Sorted.pairwise_insert (fun _ _ => Node.compare_eq_gt) (fun _ _ => Node.compare_ne_gt) h _

lemma total_reopen (h : ∀ a ∈ p.opened, a.cell ≠ start →
      a.total = (Node.of a.cost.toFloat (estimate a.cell.toPoint) a.cell).total) :
    ∀ a ∈ (p.reopen estimate u d x).opened, a.cell ≠ start →
      a.total = (Node.of a.cost.toFloat (estimate a.cell.toPoint) a.cell).total := by
  intro a ha hs
  rcases mem_opened_reopen.mp ha with rfl | ha
  · rw [cost_of]
    rfl
  · exact h a ha hs

end Reopen

namespace Ranked

lemma fresh_head (h : Ranked estimate start p) (ht : p.Takes node rest) : p.Fresh node := by
  obtain ⟨b, hb, hbc, hf, he | hlt⟩ := h.best node ht.mem ht.closed_eq_false
  · exact he ▸ hf
  · exact (hlt.not_ge (rank_le_of_dropWhile ht h.sorted hb (hbc ▸ ht.closed_eq_false))).elim

lemma close (h : Ranked estimate start p) (ht : p.Takes node rest) :
    Ranked estimate start (p.close node.cell rest) := by
  refine ⟨(List.pairwise_cons.mp (h.sorted.sublist ht.sublist)).2,
    fun a ha => h.total a (ht.mem_of_rest ha), fun a ha hc => ?_⟩
  obtain ⟨hne, hc⟩ := closed_close_eq_false.mp hc
  obtain ⟨b, hb, hbc, hf, hle⟩ := h.best a (ht.mem_of_rest ha) hc
  exact ⟨b, ht.mem_rest hb (hbc ▸ hc) (hbc ▸ hne), hbc, hf, hle⟩

lemma rank_lt (hapart : Apart moves estimate start) (h : Ranked estimate start p)
    (hg : Grown moves start p log node.cell todo) (hn : p.closed.lookup node.cell = true)
    (hlog : node ∈ log) (hmove : (d, s) ∈ moves node.cell) (hds : d ≠ start)
    (hd : p.closed.lookup d = false) (hbetter : p.better d (node.cost.toFloat + s) = true) :
    ∀ a ∈ p.opened, a.cell = d →
      (Node.of (node.cost.toFloat + s) (estimate d.toPoint) d).total.rank < a.total.rank := by
  rintro a ha rfl
  obtain ⟨b, hb, hbc, hf, hle⟩ := h.best a ha hd
  have hnew : Reached moves start _ (Node.of (node.cost.toFloat + s) (estimate a.cell.toPoint) a.cell) :=
    (hg.reached node (Or.inr hlog)).next hn hmove hd
  obtain ⟨-, path, hr, -⟩ := hnew
  obtain ⟨-, path', hr', -⟩ := hg.reached b (Or.inl hb)
  rw [cost_of] at hr
  rw [hbc] at hr'
  have hlt : node.cost.toFloat + s < b.cost.toFloat := by
    rw [Fresh, hbc] at hf
    simpa [better, hf] using hbetter
  have hrank := hapart a.cell path path' _ _ hr hr' hlt
  rw [← hbc, ← h.total b hb (hbc ▸ hds), hbc] at hrank
  exact hle.elim (fun he => he ▸ hrank) hrank.trans

lemma reopen (hapart : Apart moves estimate start) (h : Ranked estimate start p)
    (hg : Grown moves start p log node.cell todo) (hlog : node ∈ log)
    (hmove : (d, s) ∈ moves node.cell) (hstart : p.closed.lookup start = true)
    (hd : p.closed.lookup d = false) (hbetter : p.better d (node.cost.toFloat + s) = true) :
    Ranked estimate start (p.reopen estimate node.cell d (node.cost.toFloat + s)) := by
  have hds : d ≠ start := (ne_of_closed hd hstart).symm
  have hfirst := h.rank_lt hapart hg (hg.closed_of_mem node hlog) hlog hmove hds hd hbetter
  refine ⟨pairwise_reopen h.sorted, total_reopen h.total, fun a ha hc => ?_⟩
  by_cases had : a.cell = d
  · refine ⟨_, mem_opened_reopen.mpr (Or.inl rfl), had.symm, fresh_of, ?_⟩
    exact (mem_opened_reopen.mp ha).imp_right fun ha => hfirst a ha had
  · have hold := (mem_opened_reopen.mp ha).resolve_left fun he => had (he ▸ rfl)
    obtain ⟨b, hb, hbc, hf, hle⟩ := h.best a hold hc
    exact ⟨b, mem_opened_reopen.mpr (Or.inr hb), hbc, (fresh_reopen (hbc ▸ had)).mpr hf, hle⟩

lemma relax (hapart : Apart moves estimate start) (h : Ranked estimate start p)
    (hg : Grown moves start p log node.cell (move :: todo)) (hlog : node ∈ log)
    (hmove : move ∈ moves node.cell) (hstart : p.closed.lookup start = true) :
    Ranked estimate start (Progress.relax estimate node p move) := by
  rw [relax_eq_reopen]
  split
  · rename_i hc
    rw [Bool.and_eq_true, Bool.not_eq_true'] at hc
    exact h.reopen hapart hg hlog hmove hstart hc.1 hc.2
  · exact h

lemma expand (hapart : Apart moves estimate start) (h : Ranked estimate start p)
    (hg : Grown moves start p log u []) (ht : p.Takes node rest) :
    Ranked estimate start (p.expand moves estimate node rest) :=
  (hg.expand_keeps (I := fun p _ => Ranked estimate start p) ht (h.close ht)
    fun _ _ _ hg hmove hstart h => h.relax hapart hg List.mem_cons_self hmove hstart).2

end Ranked

lemma ranked_start : Ranked estimate start (Progress.start estimate start) := by
  refine ⟨List.pairwise_singleton _ _, fun a ha hs => (hs (fresh_start ha).1).elim, fun a ha _ => ?_⟩
  obtain ⟨hcell, hcost⟩ := fresh_start ha
  exact ⟨a, ha, rfl, by simp [Fresh, hcell, hcost], Or.inl rfl⟩

lemma fresh_closings (hapart : Apart moves estimate start) (goal : Cell width height) (rounds : ℕ) :
    ∀ e ∈ closings moves estimate goal rounds (Progress.start estimate start),
      e.2 = some e.1.cost.toFloat := by
  have hI : Ranked estimate start (Progress.start estimate start) ∧
      ∃ log u, Grown moves start (Progress.start estimate start) log u [] :=
    ⟨ranked_start, _, _, grown_start moves estimate start⟩
  refine forall_closings
    (I := fun p => Ranked estimate start p ∧ ∃ log u, Grown moves start p log u []) ?_ hI
  rintro p node rest ⟨h, log, u, hg⟩ ht
  exact ⟨h.fresh_head ht, h.expand hapart hg ht, _, _, hg.expand ht⟩

end Progress

namespace Query

def Apart (q : Query) : Prop :=
  ∀ (p : Point) (path path' : List Point), Joins q.grid q.diagonal q.start p path →
    Joins q.grid q.diagonal q.start p path' → charge path < charge path' →
      (Priority.ofFloat (charge path + q.estimate p)).rank < (Priority.ofFloat (charge path' + q.estimate p)).rank

/-- The cost is always the charge of some path to the goal. It is the charge of the answer's own path if
every cell of it was closed at its known cost, as is sure if dearer paths to a cell rank behind cheaper
ones. -/
theorem cost_eq_charge (q : Query) (h : q.plan.success = true) :
    (∃ path, Joins q.grid q.diagonal q.start q.goal path ∧ q.plan.cost = charge path) ∧
    ((∀ e ∈ q.closings, e.1.cell.toPoint ∈ q.plan.path → e.2 = some e.1.cost.toFloat) →
      q.plan.cost = charge q.plan.path) ∧
    (q.Apart → q.plan.cost = charge q.plan.path) := by
  rcases q.plan_cases with ⟨start, goal, hs, hg, ho, -⟩ | ⟨-, hp, -⟩
  · obtain ⟨path, x, hpath, hr, ⟨route, hroute⟩, -, hcost⟩ := ho.found h
    have hs' := (freeCell?_eq_some.mp hs).1
    have hg' := (freeCell?_eq_some.mp hg).1
    have hfresh (hf : ∀ e ∈ q.closings, e.1.cell.toPoint ∈ q.plan.path → e.2 = some e.1.cost.toFloat) :
        q.plan.cost = charge q.plan.path := by
      rw [hpath, hr.charge_eq]
      refine hcost (fun a ha => (List.not_mem_nil ha).elim) fun e he hmem => hf e he ?_
      rw [hpath]
      exact List.mem_map_of_mem hmem
    refine ⟨⟨_, hs' ▸ hg' ▸ hroute.joins, hroute.charge_eq.symm⟩, hfresh, fun hapart => ?_⟩
    refine hfresh fun e he _ => ?_
    have hapart' : Search.Apart (moves q.grid.blocked q.diagonal) q.estimate start := by
      intro c path path' x y hr hr' hlt
      have hj := hapart c.toPoint _ _ (hs' ▸ hr.joins) (hs' ▸ hr'.joins)
      rw [hr.charge_eq, hr'.charge_eq] at hj
      exact hj hlt
    rw [closings, hs, hg] at he
    exact Progress.fresh_closings hapart' _ _ e he
  · rw [hp] at h
    exact (Bool.false_ne_true h).elim

def bend : Query where
  grid := Grid.block ⟨3, 3, Table.uniform false⟩ ⟨1, 1⟩
  goal := ⟨2, 2⟩

theorem cost_bend : bend.plan.success = true ∧ bend.plan.cost = charge bend.plan.path := by
  have hs : bend.plan.success = true := by decide +kernel
  exact ⟨hs, (cost_eq_charge bend hs).2.1 (by decide +kernel)⟩

/-- Under so large a weight the totals of a cell's nodes are equal, and the dearer node closes the cell
although the path goes where the cheaper one came from. -/
def steep : Query where
  grid := [⟨0, 4⟩, ⟨0, 5⟩, ⟨1, 1⟩, ⟨2, 1⟩].foldl Grid.block ⟨3, 6, Table.uniform false⟩
  start := ⟨1, 5⟩
  goal := ⟨2, 0⟩
  heuristic := .manhattan
  weight := 1e16

theorem cost_ne_charge_steep : steep.weight.isFinite = true ∧ steep.plan.success = true ∧
    steep.plan.cost ≠ charge steep.plan.path := by
  decide +kernel

end Query

end Navigation.Search
