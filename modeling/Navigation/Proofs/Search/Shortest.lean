import Navigation.Proofs.Number.Precision
import Navigation.Proofs.Search.Lengths

/-!
When best-first search is exact although its doubles are not. As long as errors stay below the margin by
which lengths differ, every cell is closed at the end of a shortest way, and its parents lead back along a
shortest way, which may be another one.
-/

namespace Navigation.Search

variable {width height : ℕ} {moves : Moves width height} {estimate : Point → Float} {rest : Point → ℝ}
  {drift slack r : ℝ} {start goal c d : Cell width height} {x s : Float}

/-- Costs are the lengths of routes up to `drift`, totals rank as costs and what is left do up to `slack`,
and a route that is not a shortest one is longer by more than that. -/
structure Tracks (moves : Moves width height) (estimate : Point → Float) (start : Cell width height)
    (rest : Point → ℝ) (drift slack : ℝ) : Prop where
  slack_nonneg : 0 ≤ slack
  plain : ∀ c path x, Route moves start c path x → Plain x
  cost : ∀ c path x, Route moves start c path x → |value x - span (path.map Cell.toPoint)| ≤ drift
  total : ∀ c d path path' x y, Route moves start c path x → Route moves start d path' y →
    (Node.of x (estimate c.toPoint) c).total.rank ≤ (Node.of y (estimate d.toPoint) d).total.rank →
      value x + rest c.toPoint ≤ value y + rest d.toPoint + slack
  consistent : ∀ c d, Leads moves c d → rest c.toPoint ≤ stride c.toPoint d.toPoint + rest d.toPoint
  margin : ∀ c path x r, Route moves start c path x → Way moves start c r →
    r < span (path.map Cell.toPoint) → r + 2 * drift + slack < span (path.map Cell.toPoint)

def Shortest (moves : Moves width height) (start c : Cell width height) (path : List (Cell width height)) :
    Prop :=
  ∀ r, Way moves start c r → span (path.map Cell.toPoint) ≤ r

lemma shortest_start : Shortest moves start start [start] := by
  intro r hr
  rw [List.map_singleton, span_singleton]
  exact hr.nonneg

lemma Route.eq_start {path : List (Cell width height)} (h : Route moves start start path x) :
    path = [start] := by
  cases h with
  | home => rfl
  | next hr _ hd => exact (hd (List.mem_of_mem_head? hr.head)).elim

lemma span_map_concat {path : List (Cell width height)} (h : path.getLast? = some c) (d : Cell width height) :
    span ((path ++ [d]).map Cell.toPoint) = span (path.map Cell.toPoint) + stride c.toPoint d.toPoint := by
  have hlast : (path.map Cell.toPoint).getLast? = some c.toPoint := by simp [h]
  rw [List.map_append, List.map_singleton, span_concat hlast]

namespace Progress

variable {p : Progress width height} {node u : Node width height} {others log : List (Node width height)}
  {todo : List (Cell width height × Float)} {move : Cell width height × Float} {rounds : ℕ}

structure Exact (moves : Moves width height) (estimate : Point → Float) (start : Cell width height)
    (p : Progress width height) (log : List (Node width height)) (u : Node width height)
    (todo : List (Cell width height × Float)) : Prop where
  sorted : p.opened.Pairwise fun a b => a.total.rank ≤ b.total.rank
  total : ∀ a ∈ p.opened, a.cell ≠ start →
    a.total = (Node.of a.cost.toFloat (estimate a.cell.toPoint) a.cell).total
  known : ∀ a ∈ p.opened, ∃ x, p.costs.lookup a.cell = some x ∧ value x ≤ value a.cost.toFloat
  relaxed : ∀ a ∈ log, ∀ m ∈ moves a.cell, p.closed.lookup m.1 = true ∨
    (∃ x, p.costs.lookup m.1 = some x ∧ value x ≤ value (a.cost.toFloat + m.2)) ∨ a = u ∧ m ∈ todo
  route : ∀ a ∈ log, ∃ path, Route moves start a.cell path a.cost.toFloat ∧
    (∀ d ∈ path, p.closed.lookup d = true) ∧ Shortest moves start a.cell path
  back : ∀ a ∈ log, ∃ path, Back p.parents a.cell path ∧ (∀ d ∈ path, p.closed.lookup d = true) ∧
    Shortest moves start a.cell path

section Head

variable (ht : Tracks moves estimate start rest drift slack)
include ht

lemma Exact.exists_open (h : Exact moves estimate start p log u [])
    (hg : Grown moves start p log d []) (hstart : p.closed.lookup start = true)
    (hc : p.closed.lookup c = false) (hr : Way moves start c r) :
    ∃ b ∈ p.opened, p.closed.lookup b.cell = false ∧ (∃ path, Route moves start b.cell path b.cost.toFloat) ∧
      value b.cost.toFloat + rest b.cell.toPoint ≤ r + rest c.toPoint + drift := by
  obtain ⟨e, b, t, he, hb, ⟨s, hm⟩, hway, hle⟩ :=
    hr.exists_leaving (P := fun c => p.closed.lookup c = true) ht.consistent hstart (by simp [hc])
  rw [Bool.not_eq_true] at hb
  obtain ⟨a, ha, rfl⟩ := (hg.closed e).mp he
  obtain ⟨path, hroute, hclosed, hshort⟩ := h.route a ha
  have hnext := hroute.next hm fun hmem => ne_of_closed hb (hclosed b hmem) rfl
  obtain ⟨x, hx, hvalue⟩ : ∃ x, p.costs.lookup b = some x ∧ value x ≤ value (a.cost.toFloat + s) := by
    rcases h.relaxed a ha _ hm with hcl | hk | ⟨-, hmem⟩
    · exact (ne_of_closed hb hcl rfl).elim
    · exact hk
    · exact (List.not_mem_nil hmem).elim
  obtain ⟨n, hn, rfl, hfresh⟩ := hg.frontier b x hb hx
  rw [Fresh, hx, Option.some_inj] at hfresh
  subst hfresh
  obtain ⟨-, path', hroute', -⟩ := hg.reached n (Or.inl hn)
  refine ⟨n, hn, hb, ⟨path', hroute'⟩, ?_⟩
  have hcost := (abs_le.mp (ht.cost _ _ _ hnext)).2
  have hspan := hshort t hway
  rw [span_map_concat hroute.last] at hcost
  linarith

lemma Exact.shortest_head (h : Exact moves estimate start p log u [])
    (hg : Grown moves start p log d []) (hn : p.Takes node others) :
    ∃ path, Route moves start node.cell path node.cost.toFloat ∧
      (∀ d ∈ path, d = node.cell ∨ p.closed.lookup d = true) ∧ Shortest moves start node.cell path := by
  obtain ⟨-, path, hroute, hclosed⟩ := hg.reached node (Or.inl hn.mem)
  refine ⟨path, hroute, hclosed, ?_⟩
  rcases hg.begun with hstart | hstart
  · intro r hr
    by_contra hlt
    rw [not_le] at hlt
    obtain ⟨b, hb, hbc, ⟨path', hroute'⟩, hle⟩ := h.exists_open ht hg hstart hn.closed_eq_false hr
    have hfirst := rank_le_of_dropWhile hn h.sorted hb hbc
    rw [h.total node hn.mem (ne_of_closed hn.closed_eq_false hstart).symm,
      h.total b hb (ne_of_closed hbc hstart).symm] at hfirst
    have htotal := ht.total _ _ _ _ _ _ hroute hroute' hfirst
    have hcost := (abs_le.mp (ht.cost _ _ _ hroute)).1
    have hmargin := ht.margin _ _ _ r hroute hr hlt
    linarith
  · have hcell := hstart node hn.mem
    rw [hcell] at hroute ⊢
    rw [hroute.eq_start]
    exact shortest_start

lemma Exact.shortest_back (h : Exact moves estimate start p log u [])
    (hg : Grown moves start p log d []) (hn : p.Takes node others) :
    ∃ path, Back p.parents node.cell path ∧ (∀ d ∈ path, d = node.cell ∨ p.closed.lookup d = true) ∧
      Shortest moves start node.cell path := by
  by_cases hs : node.cell = start
  · rw [hs]
    exact ⟨[start], .root hg.origin.2, by simp, shortest_start⟩
  obtain ⟨path, hroute, -, hshort⟩ := h.shortest_head ht hg hn
  obtain ⟨x, hx, hvalue⟩ := h.known node hn.mem
  obtain ⟨a, ha, s, hp, hm, rfl⟩ := hg.parent _ x hx hs
  obtain ⟨trail, hback, htrail, hleast⟩ := h.back a ha
  obtain ⟨path', hroute', hclosed', -⟩ := h.route a ha
  have hnext := hroute'.next hm fun hmem => ne_of_closed hn.closed_eq_false (hclosed' _ hmem) rfl
  refine ⟨trail ++ [node.cell], .next hp hback, fun d hd => ?_, fun r hr => ?_⟩
  · rcases List.mem_append.mp hd with hd | hd
    · exact Or.inr (htrail d hd)
    · exact Or.inl (List.mem_singleton.mp hd)
  · have hlast : trail.getLast? = some a.cell := by cases hback <;> simp
    -- the known cost is that of a way through the parent, so that way is a shortest one too
    have hthrough : span ((path' ++ [node.cell]).map Cell.toPoint) ≤ span (path.map Cell.toPoint) := by
      by_contra hlt
      rw [not_le] at hlt
      have hmargin := ht.margin _ _ _ _ hnext hroute.way hlt
      have hcost := (abs_le.mp (ht.cost _ _ _ hroute)).2
      have hcost' := (abs_le.mp (ht.cost _ _ _ hnext)).1
      have hpos := ht.slack_nonneg
      linarith
    rw [span_map_concat hroute'.last] at hthrough
    have htrail := hleast _ hroute'.way
    have hr' := hshort r hr
    rw [span_map_concat hlast]
    linarith

lemma Exact.close (h : Exact moves estimate start p log u [])
    (hg : Grown moves start p log d []) (hn : p.Takes node others) :
    Exact moves estimate start (p.close node.cell others) (node :: log) node (moves node.cell) := by
  refine ⟨(List.pairwise_cons.mp (h.sorted.sublist hn.sublist)).2, fun a ha => h.total a (hn.mem_of_rest ha),
    fun a ha => h.known a (hn.mem_of_rest ha), fun a ha m hm => ?_, fun a ha => ?_, fun a ha => ?_⟩
  · rcases List.mem_cons.mp ha with rfl | ha
    · exact Or.inr (Or.inr ⟨rfl, hm⟩)
    · rcases h.relaxed a ha m hm with hc | hk | hf
      · exact Or.inl (closed_close_of hc)
      · exact Or.inr (Or.inl hk)
      · exact (List.not_mem_nil hf.2).elim
  · rcases List.mem_cons.mp ha with rfl | ha
    · obtain ⟨path, hroute, hclosed, hshort⟩ := h.shortest_head ht hg hn
      exact ⟨path, hroute, fun d hd => closed_close_eq_true.mpr (hclosed d hd), hshort⟩
    · obtain ⟨path, hroute, hclosed, hshort⟩ := h.route a ha
      exact ⟨path, hroute, fun d hd => closed_close_of (hclosed d hd), hshort⟩
  · rcases List.mem_cons.mp ha with rfl | ha
    · obtain ⟨path, hback, hclosed, hshort⟩ := h.shortest_back ht hg hn
      exact ⟨path, hback, fun d hd => closed_close_eq_true.mpr (hclosed d hd), hshort⟩
    · obtain ⟨path, hback, hclosed, hshort⟩ := h.back a ha
      exact ⟨path, hback, fun d hd => closed_close_of (hclosed d hd), hshort⟩

end Head

section Relax

lemma Exact.skip (h : Exact moves estimate start p log node (move :: todo))
    (hm : p.closed.lookup move.1 = true ∨
      ∃ x, p.costs.lookup move.1 = some x ∧ value x ≤ value (node.cost.toFloat + move.2)) :
    Exact moves estimate start p log node todo := by
  refine ⟨h.sorted, h.total, h.known, fun a ha m hmem => ?_, h.route, h.back⟩
  rcases h.relaxed a ha m hmem with hc | hk | ⟨rfl, htodo⟩
  · exact Or.inl hc
  · exact Or.inr (Or.inl hk)
  · rcases List.mem_cons.mp htodo with rfl | htodo
    · exact hm.imp_right Or.inl
    · exact Or.inr (Or.inr ⟨rfl, htodo⟩)

variable (ht : Tracks moves estimate start rest drift slack)
include ht

lemma Exact.reopen (h : Exact moves estimate start p log node ((d, s) :: todo))
    (hg : Grown moves start p log node.cell ((d, s) :: todo)) (hlog : node ∈ log)
    (hmove : (d, s) ∈ moves node.cell) (hd : p.closed.lookup d = false)
    (hbetter : p.better d (node.cost.toFloat + s) = true) :
    Exact moves estimate start (p.reopen estimate node.cell d (node.cost.toFloat + s)) log node todo := by
  obtain ⟨path, hroute, hclosed, -⟩ := h.route node hlog
  have hnext := hroute.next hmove fun hmem => ne_of_closed hd (hclosed d hmem) rfl
  -- a cell that was known before is known at a lower cost now
  have hlower (y : Float) (hy : p.costs.lookup d = some y) : value (node.cost.toFloat + s) ≤ value y := by
    obtain ⟨b, hb, rfl, hfresh⟩ := hg.frontier d y hd hy
    obtain ⟨-, path', hroute', -⟩ := hg.reached b (Or.inl hb)
    rw [Fresh, hy, Option.some_inj] at hfresh
    subst hfresh
    have hlt : node.cost.toFloat + s < b.cost.toFloat := by simpa [better, hy] using hbetter
    exact ((ht.plain _ _ _ hnext).lt_iff (ht.plain _ _ _ hroute')).mp hlt |>.le
  refine ⟨pairwise_reopen h.sorted, total_reopen h.total, fun a ha => ?_, fun a ha m hm => ?_, h.route,
    fun a ha => ?_⟩
  · rw [costs_reopen]
    rcases mem_opened_reopen.mp ha with rfl | ha
    · exact ⟨_, if_pos rfl, by rw [cost_of]⟩
    · obtain ⟨x, hx, hle⟩ := h.known a ha
      by_cases had : a.cell = d
      · exact ⟨_, if_pos had, (hlower x (had ▸ hx)).trans hle⟩
      · exact ⟨x, by rwa [if_neg had], hle⟩
  · rw [costs_reopen]
    rcases h.relaxed a ha m hm with hc | ⟨x, hx, hle⟩ | ⟨rfl, hmem⟩
    · exact Or.inl hc
    · refine Or.inr (Or.inl ?_)
      by_cases hmd : m.1 = d
      · exact ⟨_, if_pos hmd, (hlower x (hmd ▸ hx)).trans hle⟩
      · exact ⟨x, by rwa [if_neg hmd], hle⟩
    · rcases List.mem_cons.mp hmem with rfl | hmem
      · exact Or.inr (Or.inl ⟨_, if_pos rfl, le_rfl⟩)
      · exact Or.inr (Or.inr ⟨rfl, hmem⟩)
  · obtain ⟨path, hback, hclosed, hshort⟩ := h.back a ha
    exact ⟨path, hback.put (fun hm => ne_of_closed hd (hclosed d hm) rfl) _, hclosed, hshort⟩

lemma Exact.relax (h : Exact moves estimate start p log node (move :: todo))
    (hg : Grown moves start p log node.cell (move :: todo)) (hlog : node ∈ log)
    (hmove : move ∈ moves node.cell) :
    Exact moves estimate start (Progress.relax estimate node p move) log node todo := by
  rw [relax_eq_reopen]
  split
  · rename_i hc
    rw [Bool.and_eq_true, Bool.not_eq_true'] at hc
    exact h.reopen ht hg hlog hmove hc.1 hc.2
  · rename_i hc
    rw [Bool.and_eq_true, Bool.not_eq_true', not_and] at hc
    refine h.skip ?_
    cases hcl : p.closed.lookup move.1 with
    | true => exact Or.inl rfl
    | false =>
      refine Or.inr ?_
      have hworse := hc hcl
      cases hx : p.costs.lookup move.1 with
      | none => simp [better, hx] at hworse
      | some x =>
        obtain ⟨b, hb, hbc, hfresh⟩ := hg.frontier move.1 x hcl hx
        obtain ⟨-, path', hroute', -⟩ := hg.reached b (Or.inl hb)
        rw [Fresh, hbc, hx, Option.some_inj] at hfresh
        obtain ⟨path, hroute, hclosed, -⟩ := h.route node hlog
        have hnext := hroute.next hmove fun hmem => ne_of_closed hcl (hclosed move.1 hmem) rfl
        have hlt : ¬node.cost.toFloat + move.2 < x := by simpa [better, hx] using hworse
        rw [(ht.plain _ _ _ hnext).lt_iff (hfresh ▸ ht.plain _ _ _ hroute'), not_lt] at hlt
        exact ⟨x, rfl, hlt⟩

lemma Exact.expand (h : Exact moves estimate start p log u []) (hg : Grown moves start p log d [])
    (hn : p.Takes node others) :
    Exact moves estimate start (p.expand moves estimate node others) (node :: log) node [] :=
  (hg.expand_keeps (I := fun p todo => Exact moves estimate start p (node :: log) node todo) hn (h.close ht hg hn)
    fun _ _ _ hg hmove _ h => h.relax ht hg List.mem_cons_self hmove).2

end Relax

section Run

lemma exact_start : Exact moves estimate start (Progress.start estimate start) [] node [] := by
  refine ⟨List.pairwise_singleton _ _, fun a ha hs => (hs (fresh_start ha).1).elim, fun a ha => ?_,
    fun a ha => (List.not_mem_nil ha).elim, fun a ha => (List.not_mem_nil ha).elim,
    fun a ha => (List.not_mem_nil ha).elim⟩
  obtain ⟨hcell, hcost⟩ := fresh_start ha
  exact ⟨0.0, by simp [hcell], by rw [hcost]⟩

lemma exists_takes_of_run {I : Progress width height → Prop}
    (hI : ∀ p node others, I p → p.Takes node others → I (p.expand moves estimate node others)) (h : I p)
    (hs : (run moves estimate goal rounds p).success = true) : ∃ p' node others, I p' ∧
      p'.Takes node others ∧ node.cell = goal ∧ run moves estimate goal rounds p =
        .found (trail p'.parents (width * height) goal []) node.cost.toFloat (p'.explored + 1) := by
  induction rounds generalizing p with
  | zero => cases hs
  | succ rounds ih =>
    cases hd : p.opened.dropWhile fun a => p.closed.lookup a.cell with
    | nil =>
      rw [run, hd] at hs
      cases hs
    | cons node others =>
      rw [run_cons hd] at hs ⊢
      by_cases hg : node.cell = goal
      · rw [if_pos hg]
        exact ⟨p, node, others, h, hd, hg, rfl⟩
      · rw [if_neg hg] at hs ⊢
        exact ih (hI p node others h hd) hs

lemma shortest_run (ht : Tracks moves estimate start rest drift slack)
    (hs : (run moves estimate goal rounds (Progress.start estimate start)).success = true) :
    ∃ path, (run moves estimate goal rounds (Progress.start estimate start)).path = path.map Cell.toPoint ∧
      Shortest moves start goal path := by
  have hstart : Exact moves estimate start (Progress.start estimate start) []
      ⟨.ofFloat 0.0, .ofFloat 0.0, start⟩ [] := exact_start
  obtain ⟨p, node, others, ⟨log, u, d, h, hg⟩, hn, rfl, hrun⟩ := exists_takes_of_run
    (I := fun p => ∃ log u d, Exact moves estimate start p log u [] ∧ Grown moves start p log d [])
    (fun p node others ⟨log, u, d, h, hg⟩ hn => ⟨_, _, _, h.expand ht hg hn, hg.expand hn⟩)
    ⟨_, _, _, hstart, grown_start moves estimate start⟩ hs
  obtain ⟨path, hback, -, hshort⟩ := h.shortest_back ht hg hn
  obtain ⟨path', x, hroute, hback', -⟩ := (hg.close hn).settled node.cell closed_self
  have heq : path = path' := hback.unique hback'
  rw [hrun]
  refine ⟨path, ?_, hshort⟩
  change trail p.parents (width * height) node.cell [] = _
  rw [hback.trail_eq (heq ▸ Nat.le_succ_of_le hroute.length_le), List.append_nil]

end Run

end Progress

end Navigation.Search
