import Navigation.Proofs.Search.Routes

/-! What best-first search keeps, whatever the moves, their costs and the estimate are. -/

namespace Navigation.Search

variable {width height : ℕ} {moves : Moves width height} {estimate : Point → Float}
  {start goal c d u : Cell width height} {x s : Float}

namespace Progress

variable {p : Progress width height} {node a : Node width height} {rest log : List (Node width height)}
  {todo l : List (Cell width height × Float)} {move : Cell width height × Float} {rounds : ℕ}

def Fresh (p : Progress width height) (a : Node width height) : Prop :=
  p.costs.lookup a.cell = some a.cost.toFloat

def Reached (moves : Moves width height) (start : Cell width height) (p : Progress width height)
    (a : Node width height) : Prop :=
  (p.costs.lookup a.cell).isSome ∧ ∃ path, Route moves start a.cell path a.cost.toFloat ∧
    ∀ d ∈ path, d = a.cell ∨ p.closed.lookup d = true

def Settled (moves : Moves width height) (start : Cell width height) (p : Progress width height)
    (log : List (Node width height)) (c : Cell width height) : Prop :=
  ∃ path x, Route moves start c path x ∧ Back p.parents c path ∧
    (∀ d ∈ path, p.closed.lookup d = true) ∧
    ((∀ a ∈ log, a.cell ∈ path → p.Fresh a) → p.costs.lookup c = some x)

/-- What holds between two rounds after the nodes of `log` have closed their cells, the last one
first, except that the moves `todo` from `u` are still to be made. -/
structure Grown (moves : Moves width height) (start : Cell width height) (p : Progress width height)
    (log : List (Node width height)) (u : Cell width height) (todo : List (Cell width height × Float)) :
    Prop where
  closed : ∀ c, p.closed.lookup c = true ↔ ∃ a ∈ log, a.cell = c
  distinct : (log.map Node.cell).Nodup
  count : p.explored = log.length
  origin : p.costs.lookup start = some 0.0 ∧ p.parents.lookup start = none
  begun : p.closed.lookup start = true ∨ ∀ a ∈ p.opened, a.cell = start
  reached : ∀ a, a ∈ p.opened ∨ a ∈ log → Reached moves start p a
  frontier : ∀ c x, p.closed.lookup c = false → p.costs.lookup c = some x →
    ∃ a ∈ p.opened, a.cell = c ∧ p.Fresh a
  parent : ∀ c x, p.costs.lookup c = some x → c ≠ start → ∃ a ∈ log, ∃ s,
    p.parents.lookup c = some a.cell ∧ (c, s) ∈ moves a.cell ∧ x = a.cost.toFloat + s
  settled : ∀ c, p.closed.lookup c = true → Settled moves start p log c
  relaxed : ∀ c, p.closed.lookup c = true → ∀ m ∈ moves c,
    (p.costs.lookup m.1).isSome ∨ c = u ∧ m ∈ todo

section Reopen

def reopen (estimate : Point → Float) (p : Progress width height) (u d : Cell width height) (x : Float) :
    Progress width height :=
  { p with
    costs := p.costs.put d (some x)
    parents := p.parents.put d (some u)
    opened := Sorted.insert (Node.of x (estimate d.toPoint) d) p.opened }

lemma relax_eq_reopen : relax estimate node p move =
    if !p.closed.lookup move.1 && p.better move.1 (node.cost.toFloat + move.2) then
      p.reopen estimate node.cell move.1 (node.cost.toFloat + move.2)
    else p := rfl

@[simp] lemma cost_of : (Node.of x s c).cost.toFloat = x := Priority.toFloat_ofFloat x

@[simp] lemma costs_reopen : (p.reopen estimate u d x).costs.lookup c =
    if c = d then some x else p.costs.lookup c := Table.lookup_put _ _ _ _

@[simp] lemma parents_reopen : (p.reopen estimate u d x).parents.lookup c =
    if c = d then some u else p.parents.lookup c := Table.lookup_put _ _ _ _

lemma mem_opened_reopen :
    a ∈ (p.reopen estimate u d x).opened ↔ a = Node.of x (estimate d.toPoint) d ∨ a ∈ p.opened :=
  Sorted.mem_insert

lemma fresh_reopen (h : a.cell ≠ d) : (p.reopen estimate u d x).Fresh a ↔ p.Fresh a := by
  simp [Fresh, h]

lemma fresh_of : (p.reopen estimate u d x).Fresh (Node.of x (estimate d.toPoint) d) := by
  have hcell : (Node.of x (estimate d.toPoint) d).cell = d := rfl
  simp [Fresh, hcell]

lemma ne_of_closed (hd : p.closed.lookup d = false) (hc : p.closed.lookup c = true) : c ≠ d := by
  rintro rfl
  simp [hd] at hc

lemma Reached.reopen (h : Reached moves start p a) : Reached moves start (p.reopen estimate u d x) a := by
  refine ⟨?_, h.2⟩
  rw [costs_reopen]
  split
  · rfl
  · exact h.1

lemma Reached.next (h : Reached moves start p node) (hn : p.closed.lookup node.cell = true)
    (hmove : (d, s) ∈ moves node.cell) (hd : p.closed.lookup d = false) :
    Reached moves start (p.reopen estimate node.cell d (node.cost.toFloat + s))
      (Node.of (node.cost.toFloat + s) (estimate d.toPoint) d) := by
  obtain ⟨-, path, hr, hc⟩ := h
  have hclosed : ∀ e ∈ path, p.closed.lookup e = true := fun e he =>
    (hc e he).elim (fun heq => heq ▸ hn) id
  have hcell : (Node.of (node.cost.toFloat + s) (estimate d.toPoint) d).cell = d := rfl
  refine ⟨by simp [hcell], path ++ [d], ?_, fun e he => ?_⟩
  · rw [cost_of]
    exact hr.next hmove fun hm => ne_of_closed hd (hclosed d hm) rfl
  · rcases List.mem_append.mp he with he | he
    · exact Or.inr (hclosed e he)
    · exact Or.inl (List.mem_singleton.mp he)

lemma Settled.reopen (h : Settled moves start p log c) (hlog : ∀ a ∈ log, p.closed.lookup a.cell = true)
    (hd : p.closed.lookup d = false) : Settled moves start (p.reopen estimate u d x) log c := by
  obtain ⟨path, y, hr, hb, hc, hf⟩ := h
  have hmem := List.mem_of_getLast? hr.last
  refine ⟨path, y, hr, hb.put (fun hm => ne_of_closed hd (hc d hm) rfl) _, hc, fun hfresh => ?_⟩
  rw [costs_reopen, if_neg (ne_of_closed hd (hc c hmem))]
  exact hf fun a ha hp => (fresh_reopen (ne_of_closed hd (hlog a ha))).mp (hfresh a ha hp)

lemma closed_relax : (relax estimate node p move).closed = p.closed := by
  rw [relax_eq_reopen]
  split <;> rfl

lemma costs_relax (hc : p.closed.lookup c = true) :
    (relax estimate node p move).costs.lookup c = p.costs.lookup c := by
  rw [relax_eq_reopen]
  split
  · rename_i hm
    rw [Bool.and_eq_true, Bool.not_eq_true'] at hm
    rw [costs_reopen, if_neg (ne_of_closed hm.1 hc)]
  · rfl

lemma closed_foldl_relax : (l.foldl (relax estimate node) p).closed = p.closed := by
  induction l generalizing p with
  | nil => rfl
  | cons m l ih => exact ih.trans closed_relax

lemma costs_foldl_relax (hc : p.closed.lookup c = true) :
    (l.foldl (relax estimate node) p).costs.lookup c = p.costs.lookup c := by
  induction l generalizing p with
  | nil => rfl
  | cons m l ih => exact (ih (by rwa [closed_relax])).trans (costs_relax hc)

end Reopen

namespace Grown

lemma closed_of_mem (h : Grown moves start p log u todo) : ∀ a ∈ log, p.closed.lookup a.cell = true :=
  fun a ha => (h.closed _).mpr ⟨a, ha, rfl⟩

lemma isSome_of_closed (h : Grown moves start p log u todo) (hc : p.closed.lookup c = true) :
    (p.costs.lookup c).isSome := by
  obtain ⟨a, ha, rfl⟩ := (h.closed c).mp hc
  exact (h.reached a (Or.inr ha)).1

lemma explored_eq (h : Grown moves start p log u todo) :
    p.explored = (Finset.univ.filter fun c => p.closed.lookup c = true).card := by
  have hset : (Finset.univ.filter fun c => p.closed.lookup c = true) = (log.map Node.cell).toFinset := by
    ext c
    simp [h.closed]
  rw [hset, List.toFinset_card_of_nodup h.distinct, List.length_map, h.count]

lemma reopen (h : Grown moves start p log node.cell ((d, s) :: todo)) (hlog : node ∈ log)
    (hmove : (d, s) ∈ moves node.cell) (hstart : p.closed.lookup start = true)
    (hd : p.closed.lookup d = false) :
    Grown moves start (p.reopen estimate node.cell d (node.cost.toFloat + s)) log node.cell todo := by
  have hne := ne_of_closed hd hstart
  refine ⟨h.closed, h.distinct, h.count, ?_, Or.inl hstart, ?_, ?_, ?_,
    fun c hc => (h.settled c hc).reopen h.closed_of_mem hd, ?_⟩
  · simpa [hne] using h.origin
  · intro a ha
    rw [mem_opened_reopen, or_assoc] at ha
    rcases ha with rfl | ha
    · exact (h.reached node (Or.inr hlog)).next (h.closed_of_mem node hlog) hmove hd
    · exact (h.reached a ha).reopen
  · intro c x hc hx
    by_cases hcd : c = d
    · exact ⟨_, mem_opened_reopen.mpr (Or.inl rfl), hcd.symm, fresh_of⟩
    · rw [costs_reopen, if_neg hcd] at hx
      obtain ⟨a, ha, rfl, hf⟩ := h.frontier c x hc hx
      exact ⟨a, mem_opened_reopen.mpr (Or.inr ha), rfl, (fresh_reopen hcd).mpr hf⟩
  · intro c x hx hcs
    by_cases hcd : c = d
    · rw [costs_reopen, if_pos hcd, Option.some_inj] at hx
      exact ⟨node, hlog, s, by simp [hcd], hcd ▸ hmove, hx.symm⟩
    · rw [costs_reopen, if_neg hcd] at hx
      rw [parents_reopen, if_neg hcd]
      exact h.parent c x hx hcs
  · intro c hc m hm
    by_cases hmd : m.1 = d
    · simp [hmd]
    · rw [costs_reopen, if_neg hmd]
      refine (h.relaxed c hc m hm).imp_right fun hu => ⟨hu.1, (List.mem_cons.mp hu.2).resolve_left ?_⟩
      rintro rfl
      exact hmd rfl

lemma skip (h : Grown moves start p log u (move :: todo)) (hm : (p.costs.lookup move.1).isSome) :
    Grown moves start p log u todo := by
  refine ⟨h.closed, h.distinct, h.count, h.origin, h.begun, h.reached, h.frontier, h.parent, h.settled, ?_⟩
  intro c hc m hmem
  rcases h.relaxed c hc m hmem with hk | ⟨rfl, hmem'⟩
  · exact Or.inl hk
  · rcases List.mem_cons.mp hmem' with rfl | hmem'
    · exact Or.inl hm
    · exact Or.inr ⟨rfl, hmem'⟩

lemma relax (h : Grown moves start p log node.cell (move :: todo)) (hlog : node ∈ log)
    (hmove : move ∈ moves node.cell) (hstart : p.closed.lookup start = true) :
    Grown moves start (Progress.relax estimate node p move) log node.cell todo := by
  rw [relax_eq_reopen]
  split
  · rename_i hc
    rw [Bool.and_eq_true, Bool.not_eq_true'] at hc
    exact h.reopen hlog hmove hstart hc.1
  · rename_i hc
    rw [Bool.and_eq_true, Bool.not_eq_true', not_and] at hc
    refine h.skip ?_
    cases hcl : p.closed.lookup move.1 with
    | true => exact h.isSome_of_closed hcl
    | false =>
      -- a cell that is neither closed nor known would have been opened
      by_contra hx
      exact hc hcl (by simp [better, Option.not_isSome_iff_eq_none.mp hx])

lemma foldl_relax {I : Progress width height → List (Cell width height × Float) → Prop}
    (hI : ∀ p move todo, Grown moves start p log node.cell (move :: todo) → move ∈ moves node.cell →
      p.closed.lookup start = true → I p (move :: todo) → I (Progress.relax estimate node p move) todo)
    (h : Grown moves start p log node.cell l) (hl : I p l) (hlog : node ∈ log)
    (hmoves : ∀ m ∈ l, m ∈ moves node.cell) (hstart : p.closed.lookup start = true) :
    Grown moves start (l.foldl (Progress.relax estimate node) p) log node.cell [] ∧
      I (l.foldl (Progress.relax estimate node) p) [] := by
  induction l generalizing p with
  | nil => exact ⟨h, hl⟩
  | cons m l ih =>
    have hm := hmoves m List.mem_cons_self
    exact ih (h.relax hlog hm hstart) (hI p m l h hm hstart hl)
      (fun e he => hmoves e (List.mem_cons_of_mem _ he)) (by rwa [closed_relax])

end Grown

section Close

lemma closed_self : (p.close c rest).closed.lookup c = true := closed_close_eq_true.mpr (Or.inl rfl)

lemma closed_close_of (h : p.closed.lookup d = true) : (p.close c rest).closed.lookup d = true :=
  closed_close_eq_true.mpr (Or.inr h)

lemma Reached.close (h : Reached moves start p a) : Reached moves start (p.close c rest) a := by
  obtain ⟨hk, path, hr, hc⟩ := h
  exact ⟨hk, path, hr, fun e he => (hc e he).imp_right closed_close_of⟩

lemma Settled.close (h : Settled moves start p log c) :
    Settled moves start (p.close node.cell rest) (node :: log) c := by
  obtain ⟨path, y, hr, hb, hc, hf⟩ := h
  refine ⟨path, y, hr, hb, fun d hd => closed_close_of (hc d hd), fun hfresh => ?_⟩
  exact hf fun a ha => hfresh a (List.mem_cons_of_mem _ ha)

namespace Grown

lemma settled_close (h : Grown moves start p log u todo) (hn : p.closed.lookup node.cell = false)
    (hknown : (p.costs.lookup node.cell).isSome) :
    Settled moves start (p.close node.cell rest) (node :: log) node.cell := by
  by_cases hs : node.cell = start
  · refine ⟨[node.cell], 0.0, ?_, .root (hs ▸ h.origin.2), by simp [closed_self],
      fun _ => hs ▸ h.origin.1⟩
    rw [hs]
    exact .home
  · obtain ⟨x, hx⟩ := Option.isSome_iff_exists.mp hknown
    obtain ⟨a, ha, s, hp, hm, rfl⟩ := h.parent _ x hx hs
    obtain ⟨path, y, hr, hb, hc, hf⟩ := h.settled a.cell (h.closed_of_mem a ha)
    have hnot : node.cell ∉ path := fun hmem => ne_of_closed hn (hc _ hmem) rfl
    refine ⟨path ++ [node.cell], y + s, hr.next hm hnot, hb.next hp, fun d hd => ?_, fun hfresh => ?_⟩
    · rcases List.mem_append.mp hd with hd | hd
      · exact closed_close_of (hc d hd)
      · exact List.mem_singleton.mp hd ▸ closed_self
    · -- the parent was closed by a fresh node, so its own way back costs what the node does
      have hold : ∀ b ∈ log, b.cell ∈ path → p.Fresh b := fun b hb hmem =>
        hfresh b (List.mem_cons_of_mem _ hb) (List.mem_append_left _ hmem)
      have hparent := hold a ha (List.mem_of_getLast? hr.last)
      rw [Fresh, hf hold, Option.some_inj] at hparent
      exact hparent ▸ hx

lemma closed_start_close (h : Grown moves start p log u todo) (ht : p.Takes node rest) :
    (p.close node.cell rest).closed.lookup start = true := by
  rcases h.begun with hs | hs
  · exact closed_close_of hs
  · exact hs node ht.mem ▸ closed_self

lemma close (h : Grown moves start p log u []) (ht : p.Takes node rest) :
    Grown moves start (p.close node.cell rest) (node :: log) node.cell (moves node.cell) := by
  have hn := ht.closed_eq_false
  refine ⟨fun c => ?_, ?_, congrArg (· + 1) h.count, h.origin, Or.inl (h.closed_start_close ht), ?_, ?_, ?_,
    ?_, ?_⟩
  · rw [closed_close_eq_true, h.closed]
    simp [eq_comm]
  · rw [List.map_cons, List.nodup_cons]
    refine ⟨fun hm => ?_, h.distinct⟩
    obtain ⟨a, ha, he⟩ := List.mem_map.mp hm
    exact ne_of_closed hn (h.closed_of_mem a ha) he
  · rintro a (ha | ha)
    · exact (h.reached a (Or.inl (ht.mem_of_rest ha))).close
    · rcases List.mem_cons.mp ha with rfl | ha
      · exact (h.reached a (Or.inl ht.mem)).close
      · exact (h.reached a (Or.inr ha)).close
  · intro c x hc hx
    obtain ⟨hne, hc⟩ := closed_close_eq_false.mp hc
    obtain ⟨a, ha, rfl, hf⟩ := h.frontier c x hc hx
    exact ⟨a, ht.mem_rest ha hc hne, rfl, hf⟩
  · intro c x hx hcs
    obtain ⟨a, ha, s, he⟩ := h.parent c x hx hcs
    exact ⟨a, List.mem_cons_of_mem _ ha, s, he⟩
  · intro c hc
    rcases closed_close_eq_true.mp hc with rfl | hc
    · exact h.settled_close hn (h.reached node (Or.inl ht.mem)).1
    · exact (h.settled c hc).close
  · intro c hc m hm
    rcases closed_close_eq_true.mp hc with rfl | hc
    · exact Or.inr ⟨rfl, hm⟩
    · exact Or.inl ((h.relaxed c hc m hm).resolve_right fun hf => List.not_mem_nil hf.2)

lemma expand_keeps {I : Progress width height → List (Cell width height × Float) → Prop}
    (h : Grown moves start p log u []) (ht : p.Takes node rest)
    (hclose : I (p.close node.cell rest) (moves node.cell))
    (hI : ∀ p move todo, Grown moves start p (node :: log) node.cell (move :: todo) →
      move ∈ moves node.cell → p.closed.lookup start = true → I p (move :: todo) →
      I (Progress.relax estimate node p move) todo) :
    Grown moves start (p.expand moves estimate node rest) (node :: log) node.cell [] ∧
      I (p.expand moves estimate node rest) [] :=
  foldl_relax hI (h.close ht) hclose List.mem_cons_self (fun _ => id) (h.closed_start_close ht)

lemma expand (h : Grown moves start p log u []) (ht : p.Takes node rest) :
    Grown moves start (p.expand moves estimate node rest) (node :: log) node.cell [] :=
  (h.expand_keeps (I := fun _ _ => True) ht trivial fun _ _ _ _ _ _ _ => trivial).1

lemma explored_le_reachable (h : Grown moves start p log u todo) :
    p.explored ≤ {c | Relation.ReflTransGen (Leads moves) start c}.ncard := by
  rw [h.explored_eq, ← Set.ncard_coe_finset]
  refine Set.ncard_le_ncard (fun c hc => ?_) (Set.toFinite _)
  obtain ⟨a, ha, rfl⟩ := (h.closed c).mp (Finset.mem_filter.mp hc).2
  obtain ⟨-, path, hr, -⟩ := h.reached a (Or.inr ha)
  exact hr.reachable

lemma closed_of_reachable (h : Grown moves start p log u [])
    (hd : p.opened.dropWhile (fun a => p.closed.lookup a.cell) = [])
    (hr : Relation.ReflTransGen (Leads moves) start c) : p.closed.lookup c = true := by
  have hknown {d : Cell width height} (hk : (p.costs.lookup d).isSome) : p.closed.lookup d = true := by
    obtain ⟨x, hx⟩ := Option.isSome_iff_exists.mp hk
    by_contra hc
    obtain ⟨a, ha, rfl, -⟩ := h.frontier d x (Bool.eq_false_iff.mpr hc) hx
    exact hc (List.dropWhile_eq_nil_iff.mp hd a ha)
  induction hr with
  | refl => exact hknown (by simp [h.origin.1])
  | tail _ hm ih =>
    obtain ⟨s, hm⟩ := hm
    exact hknown ((h.relaxed _ ih _ hm).resolve_right fun hf => List.not_mem_nil hf.2)

end Grown

end Close

section Closings

def closings (moves : Moves width height) (estimate : Point → Float) (goal : Cell width height) :
    ℕ → Progress width height → List (Node width height × Option Float)
  | 0, _ => []
  | rounds + 1, p => match p.opened.dropWhile fun node => p.closed.lookup node.cell with
    | [] => []
    | node :: rest => (node, p.costs.lookup node.cell) ::
        if node.cell = goal then [] else
          closings moves estimate goal rounds (p.expand moves estimate node rest)

lemma closings_cons (ht : p.Takes node rest) : closings moves estimate goal (rounds + 1) p =
    (node, p.costs.lookup node.cell) :: if node.cell = goal then [] else
      closings moves estimate goal rounds (p.expand moves estimate node rest) := by
  rw [closings, ht]

lemma forall_closings {I : Progress width height → Prop} {Q : Node width height × Option Float → Prop}
    (hI : ∀ p node rest, I p → p.Takes node rest →
      Q (node, p.costs.lookup node.cell) ∧ I (p.expand moves estimate node rest)) (h : I p) :
    ∀ e ∈ closings moves estimate goal rounds p, Q e := by
  induction rounds generalizing p with
  | zero => exact fun e he => (List.not_mem_nil he).elim
  | succ rounds ih =>
    intro e he
    cases hd : p.opened.dropWhile fun a => p.closed.lookup a.cell with
    | nil => simp [closings, hd] at he
    | cons node rest =>
      obtain ⟨hq, hnext⟩ := hI p node rest h hd
      rw [closings_cons hd] at he
      rcases List.mem_cons.mp he with rfl | he
      · exact hq
      · split at he
        · exact (List.not_mem_nil he).elim
        · exact ih hnext e he

structure Outcome (moves : Moves width height) (estimate : Point → Float) (start goal : Cell width height)
    (p : Progress width height) (log : List (Node width height))
    (steps : List (Node width height × Option Float)) (a : Plan) : Prop where
  ends : Ends moves estimate goal p a
  explored : a.explored ≤ {c | Relation.ReflTransGen (Leads moves) start c}.ncard
  failed : a.success = false → ¬Relation.ReflTransGen (Leads moves) start goal
  found : a.success = true → ∃ path x, a.path = path.map Cell.toPoint ∧ Route moves start goal path x ∧
    (∃ route, Route moves start goal route a.cost) ∧
    (∃ e ∈ steps, e.1.cell = goal ∧ a.cost = e.1.cost.toFloat) ∧
    ((∀ node ∈ log, node.cell ∈ path → p.Fresh node) →
      (∀ e ∈ steps, e.1.cell ∈ path → e.2 = some e.1.cost.toFloat) → a.cost = x)

namespace Grown

lemma outcome_failed (h : Grown moves start p log u []) (hgoal : p.closed.lookup goal = false)
    (hd : p.opened.dropWhile (fun a => p.closed.lookup a.cell) = []) (steps) :
    Outcome moves estimate start goal p log steps (.failed p.explored) := by
  refine ⟨Ends.of_dropWhile p.opened (.empty hd), h.explored_le_reachable, fun _ hr => ?_,
    fun hf => (Bool.false_ne_true hf).elim⟩
  simp [h.closed_of_reachable hd hr] at hgoal

lemma outcome_found (h : Grown moves start p log u []) (ht : p.Takes node rest) (hng : node.cell = goal) :
    Outcome moves estimate start goal p log [(node, p.costs.lookup node.cell)]
      (.found (trail p.parents (width * height) goal []) node.cost.toFloat (p.explored + 1)) := by
  subst hng
  obtain ⟨path, x, hr, hb, -, hf⟩ := (h.close ht).settled node.cell closed_self
  obtain ⟨-, route, hroute, -⟩ := h.reached node (Or.inl ht.mem)
  have hback : Back p.parents node.cell path := hb
  have htrail : trail p.parents (width * height) node.cell [] = path.map Cell.toPoint := by
    rw [hback.trail_eq (Nat.le_succ_of_le hr.length_le), List.append_nil]
  rw [htrail]
  refine ⟨Ends.of_dropWhile p.opened (.found ht ht.closed_eq_false rfl hback),
    (h.close ht).explored_le_reachable, fun hs => (Bool.false_ne_true hs.symm).elim,
    fun _ => ⟨path, x, rfl, hr, ⟨route, hroute⟩, ⟨_, List.mem_singleton_self _, rfl, rfl⟩,
      fun hlog hnew => ?_⟩⟩
  have hnode := hnew _ (List.mem_singleton_self _) (List.mem_of_getLast? hr.last)
  have hx := hf fun a ha hmem =>
    (List.mem_cons.mp ha).elim (fun he => he ▸ hnode) fun ha => hlog a ha hmem
  exact Option.some.inj (hnode.symm.trans hx)

lemma outcome_next {a : Plan} {steps : List (Node width height × Option Float)}
    (h : Grown moves start p log u []) (ht : p.Takes node rest) (hng : node.cell ≠ goal)
    (ho : Outcome moves estimate start goal (p.expand moves estimate node rest) (node :: log) steps a) :
    Outcome moves estimate start goal p log ((node, p.costs.lookup node.cell) :: steps) a := by
  have hcosts {c : Cell width height} (hc : (p.close node.cell rest).closed.lookup c = true) :
      (p.expand moves estimate node rest).costs.lookup c = p.costs.lookup c := costs_foldl_relax hc
  refine ⟨Ends.of_dropWhile p.opened (.next ht ht.closed_eq_false hng ho.ends), ho.explored, ho.failed,
    fun hs => ?_⟩
  obtain ⟨path, x, hpath, hr, hroute, ⟨e, he, hlast⟩, hf⟩ := ho.found hs
  refine ⟨path, x, hpath, hr, hroute, ⟨e, List.mem_cons_of_mem _ he, hlast⟩,
    fun hlog hnew => hf (fun b hb hmem => ?_) fun e he => hnew e (List.mem_cons_of_mem _ he)⟩
  rcases List.mem_cons.mp hb with rfl | hb
  · exact (hcosts closed_self).trans (hnew _ List.mem_cons_self hmem)
  · exact (hcosts (closed_close_of (h.closed_of_mem b hb))).trans (hlog b hb hmem)

lemma outcome_run (h : Grown moves start p log u []) (hgoal : p.closed.lookup goal = false)
    (hrounds : p.unclosed.card ≤ rounds) :
    Outcome moves estimate start goal p log (closings moves estimate goal rounds p)
      (run moves estimate goal rounds p) := by
  induction rounds generalizing p log u with
  | zero =>
    have hpos := Finset.card_pos.mpr ⟨goal, mem_unclosed.mpr hgoal⟩
    omega
  | succ rounds ih =>
    cases hd : p.opened.dropWhile fun a => p.closed.lookup a.cell with
    | nil =>
      rw [run, hd]
      exact h.outcome_failed hgoal hd _
    | cons node rest =>
      have ht : p.Takes node rest := hd
      rw [run_cons hd, closings_cons hd]
      by_cases hng : node.cell = goal
      · rw [if_pos hng, if_pos hng]
        exact h.outcome_found hd hng
      · rw [if_neg hng, if_neg hng]
        have hc : (p.expand moves estimate node rest).closed = (p.close node.cell rest).closed :=
          closed_foldl_relax
        refine h.outcome_next hd hng (ih (h.expand hd) ?_ ?_)
        · rw [hc]
          exact closed_close_eq_false.mpr ⟨Ne.symm hng, hgoal⟩
        · rw [unclosed_congr hc, unclosed_close,
            Finset.card_erase_of_mem (mem_unclosed.mpr ht.closed_eq_false)]
          omega

end Grown

end Closings

section Start

@[simp] lemma costs_start : (Progress.start estimate start).costs.lookup c =
    if c = start then some 0.0 else none :=
  (Table.lookup_put _ _ _ _).trans (by rw [Table.lookup_uniform])

lemma fresh_start (ha : a ∈ (Progress.start estimate start).opened) :
    a.cell = start ∧ a.cost.toFloat = 0.0 := by
  rw [List.mem_singleton.mp ha]
  exact ⟨rfl, Priority.toFloat_ofFloat _⟩

lemma grown_start (moves : Moves width height) (estimate : Point → Float) (start : Cell width height) :
    Grown moves start (Progress.start estimate start) [] start [] := by
  have hnot (c : Cell width height) : (Progress.start estimate start).closed.lookup c = false := closed_start
  refine ⟨by simp [hnot], .nil, rfl, ⟨by simp, Table.lookup_uniform _ _⟩,
    Or.inr fun a ha => (fresh_start ha).1, fun a ha => ?_, fun c x _ hx => ?_, fun c x hx hc => ?_,
    fun c hc => ?_, fun c hc => ?_⟩
  · obtain ⟨hcell, hcost⟩ := fresh_start (ha.resolve_right List.not_mem_nil)
    refine ⟨by simp [hcell], [start], ?_, by simp [hcell]⟩
    rw [hcell, hcost]
    exact .home
  · rw [costs_start] at hx
    split at hx
    · rename_i hc
      obtain ⟨hcell, hcost⟩ := fresh_start (List.mem_singleton_self _)
      exact ⟨_, List.mem_singleton_self _, hcell.trans hc.symm, by simp [Fresh, hcost]⟩
    · cases hx
  · simp [hc] at hx
  · simp [hnot] at hc
  · simp [hnot] at hc

lemma outcome_start (moves : Moves width height) (estimate : Point → Float)
    (start goal : Cell width height) :
    Outcome moves estimate start goal (Progress.start estimate start) []
      (closings moves estimate goal (width * height) (Progress.start estimate start))
      (run moves estimate goal (width * height) (Progress.start estimate start)) := by
  refine (grown_start moves estimate start).outcome_run closed_start ?_
  rw [← Cell.card_eq]
  exact Finset.card_le_univ _

end Start

end Progress

end Navigation.Search
