import Navigation.Proofs.Replanning.Records

/-! A planner that checks itself as it goes. -/

namespace Navigation.Replanning

inductive Fault where
  | refused (error : Error)
  | outside (point : Point)
  | queuedTwice (point : Point)
  | misfiled (point : Point)

namespace Planner

variable {width height : ℕ}

namespace Guarded

def index (p : Point) : Except Fault (Cell width height) :=
  match Cell.ofPoint? width height p with
  | some c => .ok c
  | none => .error (.outside p)

def costAt (s : Planner width height) (p : Point) : Except Fault Costs := do
  let c ← index p
  return s.costAt c

def keyOf (s : Planner width height) (p : Point) : Except Fault Key := do
  let c ← index p
  return s.keyOf c

def isConsistent (s : Planner width height) (p : Point) : Except Fault Bool := do
  let c ← index p
  let consistent := (s.costAt c).consistent
  if (s.queued c).isSome = !consistent then return consistent else throw (.misfiled p)

def lookahead (s : Planner width height) (p : Point) : Except Fault Float := do
  let c ← index p
  if c = s.goal then return (s.costAt c).rhs
  else if s.isFree c then
    (c.neighbors.filter s.isFree).foldlM (fun least n => do
      let cost := (← costAt s n.toPoint).g + stepCost
      return if cost < least then cost else least) Plan.infinity
  else return Plan.infinity

def insertOnce (q : Queue width height) (c : Cell width height) (key : Key) :
    Except Fault (Queue width height) :=
  if (q.keys.lookup c).isSome then .error (.queuedTwice c.toPoint) else .ok (q.insert c key)

def enqueue (s : Planner width height) (c : Cell width height) :
    Except Fault (Planner width height) :=
  if (s.costAt c).consistent then .ok s
  else do
    let key ← keyOf s c.toPoint
    let queue ← insertOnce s.queue c key
    return { s with queue }

def update (s : Planner width height) (p : Point) : Except Fault (Planner width height) := do
  let c ← index p
  let rhs ← lookahead s p
  enqueue ((s.setRhs c rhs).dequeue c) c

def updateNeighbors (s : Planner width height) (p : Point) : Except Fault (Planner width height) :=
  (p.neighbors4 width height : List (Cell width height)).foldlM (fun s n => update s n.toPoint) s

def settle (s : Planner width height) (p : Point) : Except Fault (Planner width height) := do
  let c ← index p
  let cost := s.costAt c
  let s ← if cost.rhs < cost.g then pure (s.setG c cost.rhs) else update (s.setG c Plan.infinity) p
  updateNeighbors s p

def finished (s : Planner width height) (key : Key) : Except Fault Bool := do
  let start ← keyOf s s.start.toPoint
  let cost ← costAt s s.start.toPoint
  return compare key start ≠ .lt && cost.consistent

def searchFrom : ℕ → ℕ → Planner width height → Except Fault (Planner width height × ℕ)
  | 0, explored, s => return (s, explored)
  | fuel + 1, explored, s => match s.queue.pop? with
    | none => return (s, explored)
    | some (e, queue) => do
      if ← finished s e.key then return (s, explored)
      else
        let s ← settle { s with queue } e.cell.toPoint
        searchFrom fuel (explored + 1) s

def search (s : Planner width height) : Except Fault (Planner width height × ℕ) :=
  searchFrom (s.limits.searchCap width height) 0 s

def bestNeighbor (s : Planner width height) (p : Point) : Except Fault (Option (Cell width height)) :=
  ((p.neighbors4 width height).filter s.isFree).foldlM (fun best n => do
    let g := (← costAt s n.toPoint).g
    match best with
    | none => return some n
    | some b => return if g < (← costAt s b.toPoint).g then some n else some b) none

def descend (s : Planner width height) : ℕ → Point → Except Fault (Option (List Point))
  | 0, p => return if p = s.goal.toPoint then some [p] else none
  | steps + 1, p =>
    if p = s.goal.toPoint then return some [p]
    else do
      match ← bestNeighbor s p with
      | none => return none
      | some n =>
        let next ← costAt s n.toPoint
        let here ← costAt s p
        if next.g < here.g then return (← descend s steps n.toPoint).map (p :: ·) else return none

def extract (s : Planner width height) : Except Fault (Option Route) :=
  if s.isFree s.start && s.isFree s.goal then do
    let cost := (← costAt s s.start.toPoint).g
    if cost != Plan.infinity then
      return (← descend s (s.limits.pathCap width height) s.start.toPoint).map fun path => ⟨path, cost⟩
    else return none
  else return none

def plan (s : Planner width height) : Except Fault (Planner width height × Plan) := do
  let (s, explored) ← search s
  return (s, ⟨← extract s, explored⟩)

def change (blocked : Bool) (s : Planner width height) (c : Cell width height) :
    Except Fault (Planner width height) := do
  let s ← update { s with blocked := s.blocked.put c blocked } c.toPoint
  updateNeighbors s c.toPoint

def replan (s : Planner width height) (added removed : List Point) (moveTo : Option Point) :
    Except Fault (Planner width height × Plan) := do
  let start ← (moveTo.mapM (cell .start)).mapError .refused
  let added ← (added.mapM (cell .obstacle)).mapError .refused
  let removed ← (removed.mapM (cell .obstacle)).mapError .refused
  let s := match start with
    | some c => s.move c
    | none => s
  let s ← added.foldlM (change true) s
  let s ← removed.foldlM (change false) s
  plan s

def call (s : Planner width height) : Call width height → Except Fault (Planner width height × Option Plan)
  | .plan => do
    let (s, p) ← plan s
    return (s, some p)
  | .replan added removed moveTo => match replan s added removed moveTo with
    | .ok (s', p) => .ok (s', some p)
    | .error (.refused _) => .ok (s, none)
    | .error f => .error f
  | .search => do
    let (s, _) ← search s
    return (s, none)
  | .update c => do
    let s ← update s c.toPoint
    return (s, none)

variable {s : Planner width height} {c d : Cell width height}

lemma index_toPoint (c : Cell width height) : index c.toPoint = .ok c := by
  rw [index, Cell.ofPoint?, dif_pos c.inside]

lemma costAt_toPoint (s : Planner width height) (c : Cell width height) :
    costAt s c.toPoint = .ok (s.costAt c) := by
  rw [costAt, index_toPoint]
  rfl

lemma keyOf_toPoint (s : Planner width height) (c : Cell width height) :
    keyOf s c.toPoint = .ok (s.keyOf c) := by
  rw [keyOf, index_toPoint]
  rfl

lemma ok_bind {α β : Type} (a : α) (f : α → Except Fault β) : (Except.ok a >>= f) = f a := rfl

lemma foldlM_eq {α β : Type} {f : β → α → Except Fault β} {g : β → α → β}
    (h : ∀ b a, f b a = .ok (g b a)) (l : List α) (b : β) : l.foldlM f b = .ok (l.foldl g b) := by
  obtain rfl : f = fun b a => pure (g b a) := funext fun b => funext fun a => h b a
  exact List.foldlM_pure

lemma lookahead_toPoint (s : Planner width height) (c : Cell width height) :
    lookahead s c.toPoint = .ok (s.lookahead c) := by
  rw [lookahead, index_toPoint, ok_bind, Planner.lookahead]
  split
  · rfl
  · split
    · refine foldlM_eq (fun least n => ?_) _ _
      rw [costAt_toPoint]
      rfl
    · rfl

lemma enqueue_eq (hq : s.queue.keys.lookup c = none) : enqueue s c = .ok (s.enqueue c) := by
  rw [enqueue, Planner.enqueue]
  split
  · rfl
  · rw [keyOf_toPoint, ok_bind, insertOnce, hq]
    rfl

lemma update_toPoint (s : Planner width height) (c : Cell width height) :
    update s c.toPoint = .ok (s.update c) := by
  have hq : ((s.setRhs c (s.lookahead c)).dequeue c).queue.keys.lookup c = none :=
    Queue.keys_remove.trans (if_pos rfl)
  rw [update, index_toPoint, ok_bind, lookahead_toPoint]
  exact enqueue_eq hq

lemma updateNeighbors_toPoint (s : Planner width height) (c : Cell width height) :
    updateNeighbors s c.toPoint = .ok (s.updateNeighbors c) :=
  foldlM_eq update_toPoint c.neighbors s

lemma settle_toPoint (s : Planner width height) (c : Cell width height) :
    settle s c.toPoint = .ok (s.settle c) := by
  rw [settle, index_toPoint, ok_bind, update_toPoint, Planner.settle]
  dsimp only
  split
  · exact updateNeighbors_toPoint _ c
  · exact updateNeighbors_toPoint _ c

lemma finished_eq (s : Planner width height) (key : Key) : finished s key = .ok (s.finished key) := by
  rw [finished, keyOf_toPoint, costAt_toPoint]
  rfl

lemma searchFrom_eq (fuel n : ℕ) (s : Planner width height) :
    searchFrom fuel n s = .ok (Planner.searchFrom fuel n s) := by
  induction fuel generalizing n s with
  | zero => rfl
  | succ fuel ih =>
    rw [searchFrom, Planner.searchFrom]
    cases s.queue.pop? with
    | none => rfl
    | some p =>
      dsimp only
      rw [finished_eq, ok_bind, settle_toPoint, ok_bind]
      split
      · rfl
      · exact ih _ _

lemma bestNeighbor_toPoint (s : Planner width height) (c : Cell width height) :
    bestNeighbor s c.toPoint = .ok (s.bestNeighbor c) := by
  refine foldlM_eq (fun best n => ?_) _ none
  cases best with
  | none =>
    rw [costAt_toPoint]
    rfl
  | some b =>
    rw [costAt_toPoint, ok_bind]
    dsimp only
    rw [costAt_toPoint, ok_bind]
    rfl

lemma descend_toPoint (s : Planner width height) (steps : ℕ) (c : Cell width height) :
    descend s steps c.toPoint = .ok (s.descend steps c) := by
  have hgoal (c : Cell width height) : c.toPoint = s.goal.toPoint ↔ c = s.goal :=
    Cell.toPoint_injective.eq_iff
  induction steps generalizing c with
  | zero =>
    rw [descend, Planner.descend]
    simp only [hgoal]
    rfl
  | succ steps ih =>
    rw [descend, Planner.descend]
    simp only [hgoal]
    split
    · rfl
    · rw [bestNeighbor_toPoint, ok_bind]
      cases s.bestNeighbor c with
      | none => rfl
      | some n =>
        dsimp only
        rw [costAt_toPoint, costAt_toPoint, ok_bind, ok_bind]
        split
        · rw [ih n]
          rfl
        · rfl

lemma extract_eq (s : Planner width height) : extract s = .ok s.extract := by
  rw [extract, Planner.extract, costAt_toPoint, descend_toPoint]
  dsimp only
  cases s.isFree s.start && s.isFree s.goal with
  | false => rfl
  | true =>
    rw [if_pos rfl, ok_bind, Bool.true_and]
    split <;> rfl

lemma plan_eq (s : Planner width height) : plan s = .ok s.plan := by
  rw [plan, search, searchFrom_eq, ok_bind, Planner.plan, Planner.search]
  dsimp only
  rw [extract_eq]
  rfl

lemma change_eq (b : Bool) (s : Planner width height) (c : Cell width height) :
    change b s c = .ok (s.change b c) := by
  rw [change, update_toPoint, ok_bind, updateNeighbors_toPoint]
  rfl

lemma mapError_bind {α β : Type} (x : Except Error α) (f : α → Except Error β) :
    (x >>= f).mapError Fault.refused = x.mapError Fault.refused >>= fun a => (f a).mapError Fault.refused := by
  cases x <;> rfl

lemma replan_eq (s : Planner width height) (added removed : List Point) (moveTo : Option Point) :
    replan s added removed moveTo = (s.replan added removed moveTo).mapError .refused := by
  simp only [replan, Planner.replan, mapError_bind, foldlM_eq (change_eq _), ok_bind, plan_eq]
  rfl

lemma call_eq (s : Planner width height) (k : Call width height) : call s k = .ok (s.call k) := by
  cases k with
  | plan =>
    rw [call, plan_eq]
    rfl
  | replan added removed moveTo =>
    rw [call, replan_eq, Planner.call]
    cases s.replan added removed moveTo <;> rfl
  | search =>
    rw [call, search, searchFrom_eq]
    rfl
  | update c =>
    rw [call, update_toPoint]
    rfl

lemma isConsistent_toPoint (h : s.Tidy ∅) (c : Cell width height) :
    isConsistent s c.toPoint = .ok (s.costAt c).consistent := by
  have hi := h.idle c (Set.notMem_empty c)
  rw [isConsistent, index_toPoint, ok_bind]
  dsimp only
  rw [if_pos]
  · rfl
  · cases hq : s.queued c with
    | none => rw [hi.mp hq]; rfl
    | some key =>
      have hne : (s.costAt c).consistent = false :=
        Bool.eq_false_iff.mpr fun he => by cases hq.symm.trans (hi.mpr he)
      rw [hne]
      rfl

end Guarded

variable {s₀ : Planner width height} {limits : Limits} {p q : Point} {obstacles : List Point}

/-- After any history, cut short or not and with exact sums or not, the records of a planner agree, and no
check of what it can be asked next fails: not when it is made, not in the next call, and not when a
cell is looked at. -/
theorem lawful_after (hnew : Planner.new width height p q obstacles limits = .ok s₀)
    (calls : List (Call width height)) :
    let s := s₀.after calls
    s.Lawful ∧
      Guarded.enqueue { s₀ with queue := Queue.empty } s₀.goal = .ok s₀ ∧
      (∀ k, Guarded.call s k = .ok (s.call k)) ∧
      ∀ r : Point, r.Inside width height → ∃ c : Cell width height, c.toPoint = r ∧
        Guarded.costAt s r = .ok (s.costAt c) ∧ Guarded.keyOf s r = .ok (s.keyOf c) ∧
        Guarded.isConsistent s r = .ok (s.costAt c).consistent := by
  obtain ⟨-, start, goal, cs, -, -, -, rfl⟩ := new_eq_ok.mp hnew
  have h := Tidy.kept.after tidy_fresh calls (s := fresh start goal (marked cs) limits)
  refine ⟨h.lawful, ?_, Guarded.call_eq _, fun r hr => ⟨⟨r, hr⟩, rfl, ?_⟩⟩
  · have hblank : ({ fresh start goal (marked cs) limits with queue := Queue.empty } :
        Planner width height) = blank start goal (marked cs) limits := by
      rw [fresh_eq, enqueue]
      split <;> rfl
    rw [hblank, alike_fresh.goal, fresh_eq]
    exact Guarded.enqueue_eq (Table.lookup_uniform none _)
  · exact ⟨Guarded.costAt_toPoint _ ⟨r, hr⟩, Guarded.keyOf_toPoint _ ⟨r, hr⟩,
      Guarded.isConsistent_toPoint h ⟨r, hr⟩⟩

def mishap : List (Call 3 2) :=
  [.plan, .replan [⟨1, 0⟩] [] (some ⟨3, 0⟩), .update ⟨⟨1, 1⟩, by decide⟩, .replan [⟨1, 0⟩] [] (some ⟨0, 1⟩)]

theorem lawful_after_mishap : ∃ s₀ : Planner 3 2,
    Planner.new 3 2 ⟨0, 0⟩ ⟨2, 0⟩ [] ⟨1, 1⟩ = .ok s₀ ∧ (s₀.after mishap).Lawful ∧
      Guarded.call (s₀.after mishap) .plan = .ok ((s₀.after mishap).call .plan) := by
  have hnew : Planner.new 3 2 ⟨0, 0⟩ ⟨2, 0⟩ [] ⟨1, 1⟩ = .ok _ := rfl
  obtain ⟨hs, -, hcall, -⟩ := lawful_after hnew mishap
  exact ⟨_, hnew, hs, hcall .plan⟩

end Planner

end Navigation.Replanning
