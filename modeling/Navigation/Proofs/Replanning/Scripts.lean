import Navigation.Proofs.Replanning.Calls

namespace Navigation.Replanning

inductive Act (width height : ℕ) where
  | move (c : Cell width height)
  | mark (blocked : Bool) (c : Cell width height)
  | take
  | update (c : Cell width height)
  deriving DecidableEq

variable {width height : ℕ}

def Act.Still (a : Act width height) : Prop := ∀ c, a ≠ .move c

namespace Planner

variable {s s' : Planner width height} {c : Cell width height} {e : Entry width height}
  {a : Act width height} {w w' : List (Act width height)} {k : Call width height} {n : ℕ}

def act (s : Planner width height) : Act width height → Planner width height
  | .move c => s.move c
  | .mark blocked c => { s with blocked := s.blocked.put c blocked }
  | .take => match s.queue.pop? with
    | none => s
    | some (e, queue) =>
      let cost := s.costAt e.cell
      ({ s with queue } : Planner width height).setG e.cell
        (if cost.rhs < cost.g then cost.rhs else Plan.infinity)
  | .update c => s.update c

def run (s : Planner width height) (w : List (Act width height)) : Planner width height :=
  w.foldl act s

def updates (l : List (Cell width height)) : List (Act width height) := l.map Act.update

def settling (s : Planner width height) (c : Cell width height) : List (Act width height) :=
  .take :: updates (if (s.costAt c).rhs < (s.costAt c).g then c.neighbors else c :: c.neighbors)

def searching : ℕ → Planner width height → List (Act width height)
  | 0, _ => []
  | fuel + 1, s => match s.step with
    | none => []
    | some (e, s') => s.settling e.cell ++ searching fuel s'

def changing (blocked : Bool) (c : Cell width height) : List (Act width height) :=
  .mark blocked c :: updates (c :: c.neighbors)

def altering (added removed : List Point) (moveTo : Option Point) :
    Except Error (List (Act width height)) := do
  let start ← moveTo.mapM (cell .start)
  let added ← added.mapM (cell .obstacle)
  let removed ← removed.mapM (cell .obstacle)
  return start.toList.map .move ++ (added.flatMap (changing true) ++ removed.flatMap (changing false))

def script (s : Planner width height) : Call width height → List (Act width height)
  | .plan => searching (s.limits.searchCap width height) s
  | .replan added removed moveTo => match altering added removed moveTo with
    | .ok w => w ++ searching ((s.run w).limits.searchCap width height) (s.run w)
    | .error _ => []
  | .search => searching (s.limits.searchCap width height) s
  | .update c => [.update c]

def history : Planner width height → List (Call width height) → List (Act width height)
  | _, [] => []
  | s, k :: calls => s.script k ++ (s.call k).1.history calls

lemma run_append (s : Planner width height) (w w' : List (Act width height)) :
    s.run (w ++ w') = (s.run w).run w' := List.foldl_append

lemma run_updates (s : Planner width height) (l : List (Cell width height)) :
    s.run (updates l) = l.foldl update s := List.foldl_map

lemma act_take {q : Queue width height} (hp : s.queue.pop? = some (e, q)) :
    s.act .take = ({ s with queue := q } : Planner width height).setG e.cell
      (if (s.costAt e.cell).rhs < (s.costAt e.cell).g then (s.costAt e.cell).rhs else Plan.infinity) := by
  rw [act, hp]

lemma run_settling (hs : s.step = some (e, s')) : s.run (s.settling e.cell) = s' := by
  obtain ⟨q, hp, -, rfl⟩ := step_eq_some.mp hs
  have hcost : ({ s with queue := q } : Planner width height).costAt e.cell = s.costAt e.cell := rfl
  have hrun : s.run (s.settling e.cell) = (s.act .take).run (updates
      (if (s.costAt e.cell).rhs < (s.costAt e.cell).g then e.cell.neighbors
        else e.cell :: e.cell.neighbors)) := rfl
  rw [hrun, run_updates, act_take hp, settle, hcost]
  split <;> rfl

lemma run_searching (fuel : ℕ) (s : Planner width height) : s.run (searching fuel s) = rest fuel s := by
  induction fuel generalizing s with
  | zero => rfl
  | succ fuel ih =>
    rw [searching, rest]
    cases hs : s.step with
    | none => rfl
    | some p => rw [run_append, run_settling hs, ih]

lemma run_changing (s : Planner width height) (b : Bool) (l : List (Cell width height)) :
    s.run (l.flatMap (changing b)) = l.foldl (change b) s := by
  induction l generalizing s with
  | nil => rfl
  | cons c l ih =>
    have hchange : s.run (changing b c) = s.change b c :=
      run_updates ({ s with blocked := s.blocked.put c b } : Planner width height) (c :: c.neighbors)
    rw [List.flatMap_cons, run_append, hchange, ih, List.foldl_cons]

lemma altered_eq (s : Planner width height) (added removed : List Point) (moveTo : Option Point) :
    s.altered added removed moveTo = (altering added removed moveTo).map s.run := by
  change _ = s.run <$> altering added removed moveTo
  simp only [altered, altering, map_bind, map_pure]
  refine bind_congr fun start => bind_congr fun as => bind_congr fun rs => ?_
  rw [run_append, run_append, run_changing, run_changing]
  cases start <;> rfl

lemma run_script (s : Planner width height) (k : Call width height) :
    s.run (s.script k) = (s.call k).1 := by
  have hsearch (t : Planner width height) :
      t.run (searching (t.limits.searchCap width height) t) = t.search.1 := by
    rw [run_searching, search_eq]
  cases k with
  | plan => exact hsearch s
  | replan added removed moveTo =>
    rw [script]
    cases hw : (altering added removed moveTo : Except Error (List (Act width height))) with
    | error e =>
      have ha : s.altered added removed moveTo = .error e := by rw [altered_eq, hw]; rfl
      rw [call, replan_eq, ha]
      rfl
    | ok w =>
      have ha : s.altered added removed moveTo = .ok (s.run w) := by rw [altered_eq, hw]; rfl
      rw [call_of_altered ha, ← hsearch (s.run w)]
      exact run_append s w _
  | search => exact hsearch s
  | update c => rfl

lemma run_history (s : Planner width height) (calls : List (Call width height)) :
    s.run (s.history calls) = s.after calls := by
  induction calls generalizing s with
  | nil => rfl
  | cons k calls ih => rw [history, run_append, run_script, ih, after]

def leap (s : Planner width height) : Act width height → ℕ
  | .move c => s.start.toPoint.manhattan c.toPoint
  | _ => 0

def leaps : Planner width height → List (Act width height) → ℕ
  | _, [] => 0
  | s, a :: w => s.leap a + (s.act a).leaps w

lemma leaps_append (s : Planner width height) (w w' : List (Act width height)) :
    s.leaps (w ++ w') = s.leaps w + (s.run w).leaps w' := by
  induction w generalizing s with
  | nil => exact (Nat.zero_add _).symm
  | cons a w ih =>
    rw [List.cons_append, leaps, ih, leaps, add_assoc]
    rfl

lemma act_of_still (ha : a.Still) :
    (s.act a).start = s.start ∧ (s.act a).km = s.km ∧ s.leap a = 0 := by
  cases a with
  | move c => exact (ha c rfl).elim
  | mark b c => exact ⟨rfl, rfl, rfl⟩
  | take =>
    rw [act]
    split <;> exact ⟨rfl, rfl, rfl⟩
  | update c => exact ⟨start_update, km_update, rfl⟩

lemma run_of_still (hw : ∀ a ∈ w, a.Still) : (s.run w).start = s.start ∧ s.leaps w = 0 := by
  induction w generalizing s with
  | nil => exact ⟨rfl, rfl⟩
  | cons a w ih =>
    obtain ⟨hstart, -, hleap⟩ := act_of_still (s := s) (hw a List.mem_cons_self)
    obtain ⟨hstart', hleaps⟩ := ih (s := s.act a) fun b hb => hw b (List.mem_cons_of_mem a hb)
    exact ⟨hstart'.trans hstart, by rw [leaps, hleap, hleaps]⟩

lemma still_updates (l : List (Cell width height)) : ∀ a ∈ updates l, a.Still := by
  intro a ha c hc
  obtain ⟨d, -, rfl⟩ := List.mem_map.mp ha
  cases hc

lemma still_searching (fuel : ℕ) (s : Planner width height) : ∀ a ∈ searching fuel s, a.Still := by
  induction fuel generalizing s with
  | zero => exact nofun
  | succ fuel ih =>
    intro a ha
    rw [searching] at ha
    cases hs : s.step with
    | none =>
      rw [hs] at ha
      cases ha
    | some p =>
      rw [hs] at ha
      rcases List.mem_append.mp ha with ha | ha
      · rcases List.mem_cons.mp ha with rfl | ha
        · exact nofun
        · exact still_updates _ a ha
      · exact ih _ a ha

lemma still_changing (b : Bool) (l : List (Cell width height)) :
    ∀ a ∈ l.flatMap (changing b), a.Still := by
  intro a ha
  obtain ⟨c, -, ha⟩ := List.mem_flatMap.mp ha
  rcases List.mem_cons.mp ha with rfl | ha
  · exact nofun
  · exact still_updates _ a ha

lemma exists_script_eq (s : Planner width height) (k : Call width height) :
    ∃ (start : Option (Cell width height)) (w : List (Act width height)),
      s.script k = start.toList.map .move ++ w ∧ ∀ a ∈ w, a.Still := by
  cases k with
  | plan => exact ⟨none, _, rfl, still_searching _ s⟩
  | replan added removed moveTo =>
    rw [script]
    cases hw : (altering added removed moveTo : Except Error (List (Act width height))) with
    | error e => exact ⟨none, [], rfl, nofun⟩
    | ok w =>
      unfold altering at hw
      simp only [bind_eq_ok] at hw
      obtain ⟨start, -, as, -, rs, -, hw⟩ := hw
      obtain rfl := Except.ok.inj hw
      refine ⟨start, _, List.append_assoc _ _ _, fun a ha => ?_⟩
      rcases List.mem_append.mp ha with ha | ha
      · rcases List.mem_append.mp ha with ha | ha
        · exact still_changing true as a ha
        · exact still_changing false rs a ha
      · exact still_searching _ _ a ha
  | search => exact ⟨none, _, rfl, still_searching _ s⟩
  | update c => exact ⟨none, _, rfl, still_updates [c]⟩

lemma leaps_script (s : Planner width height) (k : Call width height) :
    s.leaps (s.script k) = s.stride k := by
  obtain ⟨start, w, hscript, hw⟩ := exists_script_eq s k
  have hstart : (s.call k).1.start = (s.run (start.toList.map .move)).start := by
    rw [← run_script, hscript, run_append]
    exact (run_of_still hw).1
  rw [stride, hstart, hscript, leaps_append, (run_of_still hw).2, add_zero]
  cases start with
  | none => exact (Point.manhattan_self _).symm
  | some c => rfl

lemma leaps_history (s : Planner width height) (calls : List (Call width height)) :
    s.leaps (s.history calls) = s.travelled calls := by
  induction calls generalizing s with
  | nil => rfl
  | cons k calls ih => rw [history, leaps_append, leaps_script, run_script, ih, travelled]

lemma km_run (h : s.km = Float.ofNat n) (hw : n + s.leaps w < 2 ^ 53) :
    (s.run w).km = Float.ofNat (n + s.leaps w) := by
  induction w generalizing s n with
  | nil => exact h
  | cons a w ih =>
    rw [leaps, ← add_assoc] at hw ⊢
    refine ih ?_ hw
    cases a with
    | move c =>
      change s.km + distance s.start c = _
      rw [h]
      exact Whole.add_ofNat ((Nat.le_add_right _ _).trans_lt hw)
    | mark b c => exact h
    | take => exact (act_of_still (a := .take) nofun).2.1.trans h
    | update c => exact km_update.trans h

end Planner

end Navigation.Replanning
