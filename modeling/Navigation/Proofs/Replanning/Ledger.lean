import Navigation.Proofs.Replanning.Calls

namespace Navigation.Replanning

structure Ledger (width height : ℕ) where
  start : Cell width height
  goal : Cell width height
  costs : Table height width (ℕ∞ × ℕ∞)
  queue : Queue width height
  blocked : Table height width Bool
  km : ℕ
  limits : Limits

noncomputable section

namespace Ledger

variable {width height : ℕ}

def g (l : Ledger width height) (c : Cell width height) : ℕ∞ := (l.costs.lookup c).1

def rhs (l : Ledger width height) (c : Cell width height) : ℕ∞ := (l.costs.lookup c).2

def isFree (l : Ledger width height) (c : Cell width height) : Bool := !l.blocked.lookup c

def priority (x : ℕ∞) : Priority := ⟨(Cost.code x).toUInt64⟩

def keyOf (l : Ledger width height) (c : Cell width height) : Key :=
  let least := min (l.g c) (l.rhs c)
  ⟨priority (least + (c.toPoint.manhattan l.start.toPoint + l.km : ℕ)), priority least⟩

def lookahead (l : Ledger width height) (c : Cell width height) : ℕ∞ :=
  if c = l.goal then l.rhs c
  else if l.isFree c then
    (c.neighbors.filter l.isFree).foldl (fun m n => min (l.g n + 1) m) ⊤
  else ⊤

def remove (q : Queue width height) (c : Cell width height) : Queue width height :=
  ⟨q.entries.filter fun e => e.cell ≠ c, q.keys.put c none⟩

def put (l : Ledger width height) (c : Cell width height) (g rhs : ℕ∞) : Ledger width height :=
  { l with costs := l.costs.put c (g, rhs) }

def update (l : Ledger width height) (c : Cell width height) : Ledger width height :=
  let l := l.put c (l.g c) (l.lookahead c)
  { l with queue := if l.g c = l.rhs c then remove l.queue c
      else (remove l.queue c).insert c (l.keyOf c) }

def updateNeighbors (l : Ledger width height) (c : Cell width height) : Ledger width height :=
  c.neighbors.foldl update l

def settle (l : Ledger width height) (c : Cell width height) : Ledger width height :=
  let l := if l.rhs c < l.g c then l.put c (l.rhs c) (l.rhs c) else (l.put c ⊤ (l.rhs c)).update c
  l.updateNeighbors c

def finished (l : Ledger width height) (key : Key) : Bool :=
  compare key (l.keyOf l.start) ≠ .lt && l.g l.start = l.rhs l.start

def step (l : Ledger width height) : Option (Entry width height × Ledger width height) :=
  match l.queue.pop? with
  | none => none
  | some (e, queue) =>
    if l.finished e.key then none else some (e, ({ l with queue } : Ledger width height).settle e.cell)

def rest : ℕ → Ledger width height → Ledger width height
  | 0, l => l
  | fuel + 1, l => match l.step with
    | none => l
    | some (_, l') => rest fuel l'

def search (l : Ledger width height) : Ledger width height :=
  rest (l.limits.searchCap width height) l

def move (l : Ledger width height) (start : Cell width height) : Ledger width height :=
  { l with km := l.km + l.start.toPoint.manhattan start.toPoint, start }

def change (blocked : Bool) (l : Ledger width height) (c : Cell width height) : Ledger width height :=
  (({ l with blocked := l.blocked.put c blocked } : Ledger width height).update c).updateNeighbors c

def bestNeighbor (l : Ledger width height) (c : Cell width height) : Option (Cell width height) :=
  (c.neighbors.filter l.isFree).foldl (Planner.better l.g) none

def descend (l : Ledger width height) : ℕ → Cell width height → Option (List Point)
  | 0, c => if c = l.goal then some [c.toPoint] else none
  | steps + 1, c =>
    if c = l.goal then some [c.toPoint]
    else match l.bestNeighbor c with
      | none => none
      | some n => if l.g n < l.g c then (descend l steps n).map (c.toPoint :: ·) else none

def extract (l : Ledger width height) : Option (List Point × ℕ∞) :=
  if l.isFree l.start && l.isFree l.goal && l.g l.start ≠ ⊤ then
    (l.descend (l.limits.pathCap width height) l.start).map fun path => (path, l.g l.start)
  else none

def blank (start goal : Cell width height) (blocked : Table height width Bool) (limits : Limits) :
    Ledger width height where
  start := start
  goal := goal
  costs := (Table.uniform (⊤, ⊤)).put goal (⊤, 0)
  queue := Queue.empty
  blocked := blocked
  km := 0
  limits := limits

def fresh (start goal : Cell width height) (blocked : Table height width Bool) (limits : Limits) :
    Ledger width height :=
  (blank start goal blocked limits).update goal

def trip (l : Ledger width height) (added removed : List (Cell width height)) (c : Cell width height) :
    Ledger width height :=
  removed.foldl (change false) (added.foldl (change true) (l.search.move c))

lemma priority_eq {x : ℕ∞} (hx : Cost.Exact x) : priority x = .ofFloat (Cost.toFloat x) := by
  have hle := Cost.code_le hx
  have hbits : (Cost.code x).toUInt64 = (Cost.toFloat x).toBits := by
    rw [← UInt64.toNat_inj, Cost.toBits_toFloat hx]
    exact Nat.mod_eq_of_lt (by omega)
  rw [priority, hbits, Priority.ofFloat, Cost.isNaN_toFloat hx]
  rfl

lemma remove_eq {q : Queue width height} (hq : q.Valid) (c : Cell width height) :
    remove q c = q.remove c := by
  unfold Queue.remove
  split
  · rename_i key hc
    rw [remove, hq.nodup.erase_eq_filter]
    congr 1
    refine List.filter_congr fun e he => ?_
    rw [Bool.eq_iff_iff, decide_eq_true_iff, bne_iff_ne]
    refine not_congr ⟨?_, fun heq => by rw [heq]⟩
    rintro rfl
    have hkey : key = e.key := Option.some.inj (hc.symm.trans ((hq.mem_iff e).mp he))
    rw [hkey]
  · rename_i hc
    have hentries : q.entries.filter (fun e => e.cell ≠ c) = q.entries := by
      refine List.filter_eq_self.mpr fun e he => decide_eq_true ?_
      rintro rfl
      cases hc.symm.trans ((hq.mem_iff e).mp he)
    have hkeys : q.keys.put c none = q.keys := by
      rw [← hc, Table.put_lookup]
    rw [remove, hentries, hkeys]

end Ledger

namespace Planner

variable {width height : ℕ} {s s' : Planner width height} {c d u : Cell width height}
  {e : Entry width height} {P : Set (Cell width height)} {v : ℕ∞}

def ledger (s : Planner width height) : Ledger width height where
  start := s.start
  goal := s.goal
  costs := s.costs.map fun cost => (Cost.value cost.g, Cost.value cost.rhs)
  queue := s.queue
  blocked := s.blocked
  km := s.moved
  limits := s.limits

@[simp] lemma g_ledger : s.ledger.g c = s.g c := by
  rw [Ledger.g, ledger, Table.lookup_map]
  rfl

@[simp] lemma rhs_ledger : s.ledger.rhs c = s.rhs c := by
  rw [Ledger.rhs, ledger, Table.lookup_map]
  rfl

lemma ledger_put (c : Cell width height) (cost : Costs) :
    ({ s with costs := s.costs.put c cost } : Planner width height).ledger =
      s.ledger.put c (Cost.value cost.g) (Cost.value cost.rhs) := by
  rw [ledger, Table.map_put]
  rfl

lemma ledger_setG (hv : Cost.Exact v) (c : Cell width height) :
    (s.setG c (Cost.toFloat v)).ledger = s.ledger.put c v (s.rhs c) := by
  rw [setG, ledger_put, Cost.value_toFloat hv]
  rfl

namespace Exact

variable (h : s.Exact)

include h

lemma keyOf_ledger (c : Cell width height) : s.ledger.keyOf c = s.keyOf c := by
  obtain ⟨hfirst, hsecond⟩ := h.key_exact c
  have hl : s.ledger.keyOf c =
      ⟨Ledger.priority (ofLex (s.key c)).1, Ledger.priority (ofLex (s.key c)).2⟩ := by
    rw [Ledger.keyOf, g_ledger, rhs_ledger]
    rfl
  rw [hl, Ledger.priority_eq hfirst, Ledger.priority_eq hsecond, h.keyOf_eq]
  rfl

lemma finished_ledger (key : Key) : s.ledger.finished key = s.finished key := by
  have hstart : s.ledger.start = s.start := rfl
  rw [Ledger.finished, finished, hstart, h.keyOf_ledger, g_ledger, rhs_ledger]
  congr 1
  rw [Bool.eq_iff_iff, decide_eq_true_iff, h.consistent_iff]

lemma ledger_update (hgoal : s.rhs s.goal = 0) (hq : s.queue.Valid) (c : Cell width height) :
    (s.update c).ledger = s.ledger.update c := by
  have hlook : s.ledger.lookahead c = s.due c := by
    rw [due_eq hgoal, Ledger.lookahead, rhs_ledger]
    simp only [g_ledger]
    rfl
  have hset : (s.setRhs c (s.lookahead c)).ledger = s.ledger.put c (s.g c) (s.due c) := by
    rw [setRhs, ledger_put, h.lookahead_eq hgoal, Cost.value_toFloat (h.due_exact c)]
    rfl
  have hput : (s.update c).ledger =
      { s.ledger.put c (s.g c) (s.due c) with queue := (s.update c).queue } := by
    rw [← hset, update_eq]
    rfl
  have hu := h.update hgoal c
  have hg : (s.ledger.put c (s.g c) (s.due c)).g c = (s.update c).g c := by
    rw [← g_ledger (s := s.update c), hput]
    rfl
  have hr : (s.ledger.put c (s.g c) (s.due c)).rhs c = (s.update c).rhs c := by
    rw [← rhs_ledger (s := s.update c), hput]
    rfl
  have hk : (s.ledger.put c (s.g c) (s.due c)).keyOf c = (s.update c).keyOf c := by
    rw [← hu.keyOf_ledger, hput]
    rfl
  have hold : (s.ledger.put c (s.g c) (s.due c)).queue = s.queue := rfl
  rw [hput, Ledger.update, hlook, g_ledger, queue_update]
  simp only [hu.consistent_iff, hg, hr, hk, hold, Ledger.remove_eq hq]

end Exact

namespace Coherent

lemma ledger_update (h : s.Coherent P) (c : Cell width height) :
    (s.update c).ledger = s.ledger.update c := h.exact.ledger_update h.goal h.valid c

lemma ledger_foldl_update (h : s.Coherent P) (l : List (Cell width height)) :
    (l.foldl Planner.update s).ledger = l.foldl Ledger.update s.ledger := by
  induction l generalizing s P with
  | nil => rfl
  | cons c l ih => rw [List.foldl_cons, List.foldl_cons, ih (h.update c), h.ledger_update]

lemma ledger_updateNeighbors (h : s.Coherent P) (c : Cell width height) :
    (s.updateNeighbors c).ledger = s.ledger.updateNeighbors c := h.ledger_foldl_update c.neighbors

lemma ledger_settle (h : s.Coherent {u}) (hr : s.rhs u = s.due u) (hq : s.queued u = none)
    (hb : s.rhs u < s.g u → s.rhs u ≤ (width * height + s.moved : ℕ)) :
    (s.settle u).ledger = s.ledger.settle u := by
  have hlt := Cost.toFloat_lt (h.exact.rhs_exact u) (h.exact.g_exact u)
  unfold Planner.settle Ledger.settle
  rw [h.exact.costs u, g_ledger, rhs_ledger]
  dsimp only
  split
  · rename_i hf
    have hover := hlt.mp hf
    obtain ⟨hset, -⟩ := h.setG hr hq fun _ => hb hover
    rw [if_pos hover, hset.ledger_updateNeighbors, ledger_setG (h.exact.rhs_exact u)]
  · rename_i hf
    have hover := mt hlt.mpr hf
    obtain ⟨hset, -⟩ := h.setG hr hq fun hne => (hne rfl).elim
    rw [if_neg hover, ← Cost.toFloat_top, (hset.update u).ledger_updateNeighbors,
      hset.ledger_update, ledger_setG Cost.exact_top]

lemma ledger_step (h : s.Coherent ∅) :
    s.ledger.step = s.step.map fun p => (p.1, p.2.ledger) := by
  have hpop : s.ledger.queue.pop? = s.queue.pop? := rfl
  rw [Ledger.step, hpop]
  unfold Planner.step
  cases hp : s.queue.pop? with
  | none => rfl
  | some p =>
    obtain ⟨e, q⟩ := p
    obtain ⟨x, -, hx⟩ := h.heads hp
    have hq : ({ s with queue := q } : Planner width height).queued e.cell = none :=
      (Queue.keys_of_pop hp).trans (if_pos rfl)
    have hset := (h.pop hp).ledger_settle (h.rhs _ (Set.notMem_empty _)) hq (h.rhs_le_of_heads hx)
    dsimp only
    rw [h.exact.finished_ledger]
    split
    · rfl
    · rw [Option.map_some, hset]
      rfl

lemma ledger_rest (h : s.Coherent ∅) (fuel : ℕ) :
    (Planner.rest fuel s).ledger = Ledger.rest fuel s.ledger := by
  induction fuel generalizing s with
  | zero => rfl
  | succ fuel ih =>
    rw [Planner.rest, Ledger.rest, h.ledger_step]
    cases hs : s.step with
    | none => rfl
    | some p => exact ih (h.step hs).1

lemma ledger_search (h : s.Coherent ∅) : s.search.1.ledger = s.ledger.search := by
  rw [search_eq]
  exact h.ledger_rest _

lemma ledger_move (h : s.Coherent ∅)
    (hw : Within width height (s.moved + s.start.toPoint.manhattan c.toPoint)) :
    (s.move c).ledger = s.ledger.move c := by
  rw [ledger, (h.move c hw).2]
  rfl

lemma ledger_change (h : s.Coherent ∅) (b : Bool) (c : Cell width height) :
    (s.change b c).ledger = s.ledger.change b c := by
  have hm := h.mark b c
  rw [Planner.change, (hm.update c).ledger_updateNeighbors, hm.ledger_update]
  rfl

lemma ledger_foldl_change (h : s.Coherent ∅) (b : Bool) (l : List (Cell width height)) :
    (l.foldl (Planner.change b) s).ledger = l.foldl (Ledger.change b) s.ledger := by
  induction l generalizing s with
  | nil => rfl
  | cons c l ih => rw [List.foldl_cons, List.foldl_cons, ih (h.change b c), h.ledger_change]

end Coherent

namespace Exact

variable (h : s.Exact)

include h

lemma bestNeighbor_ledger (c : Cell width height) : s.ledger.bestNeighbor c = s.bestNeighbor c := by
  have hg : s.ledger.g = s.g := funext fun d => g_ledger
  rw [h.bestNeighbor_eq, Ledger.bestNeighbor, hg]
  rfl

lemma descend_ledger (steps : ℕ) (c : Cell width height) :
    s.ledger.descend steps c = s.descend steps c := by
  have hgoal : s.ledger.goal = s.goal := rfl
  induction steps generalizing c with
  | zero => rfl
  | succ steps ih =>
    rw [Planner.descend, Ledger.descend, h.bestNeighbor_ledger, hgoal]
    split
    · rfl
    · cases s.bestNeighbor c with
      | none => rfl
      | some d =>
        have hlt : (s.costAt d).g < (s.costAt c).g ↔ s.g d < s.g c := by
          rw [h.costs c, h.costs d]
          exact Cost.toFloat_lt (h.g_exact d) (h.g_exact c)
        simp only [g_ledger, hlt, ih]

lemma extract_eq_map :
    s.extract = s.ledger.extract.map fun r => ⟨r.1, Cost.toFloat r.2⟩ := by
  have hstart : s.ledger.start = s.start := rfl
  have hgoal : s.ledger.goal = s.goal := rfl
  have hfree : s.ledger.isFree = s.isFree := rfl
  have hg : (s.costAt s.start).g = Cost.toFloat (s.g s.start) := by rw [h.costs]
  have hne : ((s.costAt s.start).g != Plan.infinity) = decide (s.g s.start ≠ ⊤) := by
    rw [hg, ← Cost.toFloat_top, bne, Bool.eq_iff_iff, Bool.not_eq_true', decide_eq_true_iff,
      Bool.eq_false_iff, Ne, Cost.toFloat_beq (h.g_exact _) Cost.exact_top]
  rw [extract, Ledger.extract, hstart, hgoal, hfree, g_ledger, h.descend_ledger, hne, hg]
  split
  · rw [Option.map_map]
    rfl
  · rfl

end Exact

lemma Coherent.route_plan (h : s.Coherent ∅) :
    s.plan.2.route = s.ledger.search.extract.map fun r => ⟨r.1, Cost.toFloat r.2⟩ := by
  rw [← h.ledger_search]
  exact h.search.exact.extract_eq_map

lemma ledger_blank {start goal : Cell width height} {blocked : Table height width Bool}
    {limits : Limits} : (blank start goal blocked limits).ledger = .blank start goal blocked limits := by
  have hcosts : (blank start goal blocked limits).costs.map
      (fun cost => (Cost.value cost.g, Cost.value cost.rhs)) =
        (Table.uniform (⊤, ⊤)).put goal (⊤, 0) := by
    refine Table.ext_lookup fun c => ?_
    have hg : (blank start goal blocked limits).g c = ⊤ := views_blank.1
    have hr : (blank start goal blocked limits).rhs c = if c = goal then 0 else ⊤ := views_blank.2
    rw [Table.lookup_map, Table.lookup_put, Table.lookup_uniform]
    change ((blank start goal blocked limits).g c, (blank start goal blocked limits).rhs c) = _
    rw [hg, hr]
    split <;> rfl
  rw [ledger, hcosts, moved_blank]
  rfl

lemma ledger_fresh {start goal : Cell width height} {blocked : Table height width Bool}
    {limits : Limits} (hw : Within width height 0) :
    (fresh start goal blocked limits).ledger = .fresh start goal blocked limits := by
  have hb : (blank start goal blocked limits).Coherent {goal} := coherent_blank hw
  rw [fresh, hb.ledger_update, ledger_blank, Ledger.fresh]

end Planner

end

end Navigation.Replanning
