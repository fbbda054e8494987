import Navigation.Proofs.Replanning.Batches

namespace Navigation.Replanning.Planner

variable {width height : ℕ}

abbrev Action (width height : ℕ) := ExceptT Error (StateM (Planner width height))

namespace Action

variable {α β : Type} {moveTo : Option Point}

def exec (x : Action width height α) (s : Planner width height) : Except Error α × Planner width height := x.run s

def check (role : Role) (p : Point) : Action width height Unit :=
  ExceptT.mk (pure ((cell role p : Except Error (Cell width height)).map fun _ => ()))

def visit (role : Role) (f : Planner width height → Cell width height → Planner width height) (p : Point) :
    Action width height Unit := do
  let c ← (ExceptT.mk (pure (cell role p)) : Action width height (Cell width height))
  modify fun s => f s c

def replan (added removed : List Point) (moveTo : Option Point) : Action width height Plan := do
  moveTo.toList.forM (check .start)
  (added ++ removed).forM (check .obstacle)
  moveTo.toList.forM (visit .start move)
  added.forM (visit .obstacle (change true))
  removed.forM (visit .obstacle (change false))
  modifyGet fun s => (s.plan.2, s.plan.1)

lemma exec_bind_ok {x : Action width height α} {f : α → Action width height β} {a : α}
    {s s' : Planner width height} (h : exec x s = (.ok a, s')) : exec (x >>= f) s = exec (f a) s' := by
  change (ExceptT.bindCont f (exec x s).1 : StateM _ _) (exec x s).2 = _
  rw [h]
  rfl

lemma exec_bind_error {x : Action width height α} {f : α → Action width height β} {e : Error}
    {s s' : Planner width height} (h : exec x s = (.error e, s')) : exec (x >>= f) s = (.error e, s') := by
  change (ExceptT.bindCont f (exec x s).1 : StateM _ _) (exec x s).2 = _
  rw [h]
  rfl

lemma exec_check (role : Role) (p : Point) (s : Planner width height) : exec (check role p) s =
    ((cell role p : Except Error (Cell width height)).map fun _ => (), s) := rfl

lemma exec_forM_check (role : Role) (ps : List Point) (s : Planner width height) :
    exec (ps.forM (check role)) s =
      ((ps.mapM (cell role) : Except Error (List (Cell width height))).map fun _ => (), s) := by
  induction ps with
  | nil => rfl
  | cons p ps ih =>
    rw [List.forM_eq_forM, List.forM_cons, List.mapM_cons]
    cases hp : (cell role p : Except Error (Cell width height)) with
    | error e =>
      rw [exec_bind_error (exec_check role p s |>.trans (by rw [hp]; rfl))]
      rfl
    | ok c =>
      rw [exec_bind_ok (exec_check role p s |>.trans (by rw [hp]; rfl)), ← List.forM_eq_forM, ih]
      cases (ps.mapM (cell role) : Except Error (List (Cell width height))) <;> rfl

lemma exec_forM_visit (role : Role) (f : Planner width height → Cell width height → Planner width height)
    (cs : List (Cell width height)) (s : Planner width height) :
    exec ((cs.map Cell.toPoint).forM (visit role f)) s = (.ok (), cs.foldl f s) := by
  induction cs generalizing s with
  | nil => rfl
  | cons c cs ih =>
    have hvisit : exec (visit role f c.toPoint) s = (.ok (), f s c) := by
      rw [visit, cell_eq_ok.mpr rfl]
      rfl
    rw [List.map_cons, List.forM_eq_forM, List.forM_cons, exec_bind_ok hvisit, ← List.forM_eq_forM, ih]
    rfl

lemma exec_check_start (moveTo : Option Point) (s : Planner width height) :
    exec (moveTo.toList.forM (check .start)) s =
      ((moveTo.mapM (cell .start) : Except Error (Option (Cell width height))).map fun _ => (), s) := by
  cases moveTo with
  | none => rfl
  | some p =>
    have hmap : ((some p).mapM (cell .start) : Except Error (Option (Cell width height))) =
        some <$> cell .start p := rfl
    rw [exec_forM_check, hmap]
    change (([p].mapM (cell .start) : Except Error (List (Cell width height))).map fun _ => (), s) = _
    rw [List.mapM_cons, List.mapM_nil]
    cases (cell .start p : Except Error (Cell width height)) <;> rfl

lemma exec_replan (s : Planner width height) (added removed : List Point) (moveTo : Option Point) :
    exec (replan added removed moveTo) s = match s.replan added removed moveTo with
      | .ok (t, a) => (.ok a, t)
      | .error e => (.error e, s) := by
  have hstart := exec_check_start moveTo s
  have hcells := exec_forM_check .obstacle (added ++ removed) s
  rw [List.mapM_append] at hcells
  rw [Planner.replan_eq, replan]
  cases hm : (moveTo.mapM (cell .start) : Except Error (Option (Cell width height))) with
  | error e =>
    rw [hm] at hstart
    rw [exec_bind_error hstart, altered, hm]
    rfl
  | ok m =>
    rw [hm] at hstart
    rw [exec_bind_ok hstart]
    cases has : (added.mapM (cell .obstacle) : Except Error (List (Cell width height))) with
    | error e =>
      rw [has] at hcells
      rw [exec_bind_error hcells, altered, hm, has]
      rfl
    | ok as =>
      cases hrs : (removed.mapM (cell .obstacle) : Except Error (List (Cell width height))) with
      | error e =>
        rw [has, hrs] at hcells
        rw [exec_bind_error hcells, altered, hm, has, hrs]
        rfl
      | ok rs =>
        rw [has, hrs] at hcells
        have hadded := mapM_cell_eq_ok.mp has
        have hremoved := mapM_cell_eq_ok.mp hrs
        have hmove : exec (moveTo.toList.forM (visit .start move)) s = (.ok (), m.elim s s.move) := by
          rw [← mapM_start_eq_ok.mp hm, Option.toList_map, exec_forM_visit]
          cases m <;> rfl
        rw [exec_bind_ok hcells, exec_bind_ok hmove, altered_eq_batch hm hadded hremoved, ← hadded, ← hremoved,
          exec_bind_ok (exec_forM_visit .obstacle (change true) as _),
          exec_bind_ok (exec_forM_visit .obstacle (change false) rs _)]
        rfl

end Action

variable {added removed ps : List Point} {moveTo : Option Point} {p : Point}

lemma mapM_cell_of_find? (role : Role) (h : ps.find? (fun p => ¬ p.Inside width height) = some p) :
    (ps.mapM (cell role) : Except Error (List (Cell width height))) =
      .error (.outOfBounds role p width height) := by
  have hcell (q : Point) (hq : ¬ q.Inside width height) :
      (cell role q : Except Error (Cell width height)) = .error (.outOfBounds role q width height) := by
    rw [cell, Cell.ofPoint?, dif_neg hq]
  induction ps with
  | nil => cases h
  | cons q ps ih =>
    rw [List.mapM_cons]
    by_cases hq : q.Inside width height
    · rw [List.find?_cons_of_neg (by simpa using hq)] at h
      have hok : (cell role q : Except Error (Cell width height)) = .ok ⟨q, hq⟩ := cell_eq_ok.mpr rfl
      rw [hok, ih h]
      rfl
    · rw [List.find?_cons_of_pos (by simpa using hq)] at h
      obtain rfl := Option.some.inj h
      rw [hcell q hq]
      rfl

lemma replan_of_start (hp : p ∈ moveTo) (hout : ¬ p.Inside width height) (added removed : List Point)
    (s : Planner width height) :
    s.replan added removed moveTo = .error (.outOfBounds .start p width height) := by
  obtain rfl : moveTo = some p := hp
  have hcell : (cell .start p : Except Error (Cell width height)) = .error (.outOfBounds .start p width height) := by
    rw [cell, Cell.ofPoint?, dif_neg hout]
  have hm : ((some p).mapM (cell .start) : Except Error (Option (Cell width height))) =
      .error (.outOfBounds .start p width height) := by
    change (some <$> cell .start p : Except Error (Option (Cell width height))) = _
    rw [hcell]
    rfl
  rw [replan, hm]
  rfl

lemma replan_of_obstacle (hmove : ∀ p ∈ moveTo, p.Inside width height)
    (hp : (added ++ removed).find? (fun p => ¬ p.Inside width height) = some p) (s : Planner width height) :
    s.replan added removed moveTo = .error (.outOfBounds .obstacle p width height) := by
  obtain ⟨m, hm⟩ := exists_mapM_start hmove
  have herror := mapM_cell_of_find? .obstacle hp
  rw [List.mapM_append] at herror
  rw [replan, hm]
  cases has : (added.mapM (cell .obstacle) : Except Error (List (Cell width height))) with
  | error e =>
    rw [has] at herror
    exact congrArg Except.error (Except.error.inj herror)
  | ok as =>
    rw [has] at herror
    cases hrs : (removed.mapM (cell .obstacle) : Except Error (List (Cell width height))) with
    | error e =>
      rw [hrs] at herror
      exact congrArg Except.error (Except.error.inj herror)
    | ok rs =>
      rw [hrs] at herror
      cases herror

theorem manhattan?_of_feasible {limits : Limits} (h : Feasible width height limits) (c d : Cell width height) :
    c.toPoint.manhattan? d.toPoint = .ok (c.toPoint.manhattan d.toPoint) := by
  obtain ⟨n, hn⟩ := h.area
  have hmul : width * height < Word.bound := by
    by_contra hlarge
    rw [Word.area, Word.mul, if_neg hlarge] at hn
    cases hn
  have hpos := h.nonempty
  have hle : width + height ≤ width * height + 1 := by
    rw [not_or] at hpos
    obtain ⟨w, rfl⟩ := Nat.exists_eq_succ_of_ne_zero hpos.1
    obtain ⟨k, rfl⟩ := Nat.exists_eq_succ_of_ne_zero hpos.2
    nlinarith [Nat.zero_le (w * k)]
  exact if_pos (((c.manhattan_lt d).trans_le hle).trans_le hmul)

/-- What replanning makes of a planner, apart from its costs and its queue: the cells to be removed are removed
after those to be added are there. -/
structure Replanned (s t : Planner width height) (added removed : List Point) (moveTo : Option Point) :
    Prop where
  blocked : ∀ p, t.isBlocked p = true ↔ (s.isBlocked p = true ∨ p ∈ added) ∧ p ∉ removed
  start : t.start.toPoint = moveTo.getD s.start.toPoint
  km : t.km = moveTo.elim s.km fun p => s.km + Float.ofNat (s.start.toPoint.manhattan p)
  goal : t.goal = s.goal
  limits : t.limits = s.limits

lemma isBlocked_inside (s : Planner width height) (h : p.Inside width height) :
    s.isBlocked p = s.blocked.lookup ⟨p, h⟩ := by
  rw [isBlocked, Cell.ofPoint?, dif_pos h]

lemma isBlocked_outside (s : Planner width height) (h : ¬ p.Inside width height) : s.isBlocked p = false := by
  rw [isBlocked, Cell.ofPoint?, dif_neg h]

lemma Replanned.batch (s : Planner width height) (m : Option (Cell width height))
    (as rs : List (Cell width height)) :
    Replanned s ((m.elim s s.move).batch as rs).plan.1 (as.map Cell.toPoint) (rs.map Cell.toPoint)
      (m.map Cell.toPoint) := by
  have hsearch := Alike.search ((m.elim s s.move).batch as rs)
  have htouch := (m.elim s s.move).touches_batch as rs
  have hblocked : (m.elim s s.move).blocked = s.blocked := by cases m <;> rfl
  constructor
  · intro p
    by_cases hp : p.Inside width height
    · have hmem (cs : List (Cell width height)) : p ∈ cs.map Cell.toPoint ↔ (⟨p, hp⟩ : Cell width height) ∈ cs :=
        List.mem_map_of_injective Cell.toPoint_injective (a := ⟨p, hp⟩)
      rw [isBlocked_inside _ hp, isBlocked_inside _ hp, hmem, hmem]
      change ((m.elim s s.move).batch as rs).search.1.blocked.lookup _ = true ↔ _
      rw [hsearch.blocked, lookup_blocked_batch, hblocked]
      split_ifs <;> simp_all
    · have hmem (cs : List (Cell width height)) : p ∉ cs.map Cell.toPoint := by
        intro h
        obtain ⟨c, -, rfl⟩ := List.mem_map.mp h
        exact hp c.inside
      simp [isBlocked_outside _ hp, hmem]
  · have hstart := hsearch.start.trans htouch.start
    cases m <;> exact congrArg Cell.toPoint hstart
  · have hkm := hsearch.km.trans htouch.km
    cases m <;> exact hkm
  · have hgoal := hsearch.goal.trans htouch.goal
    cases m <;> exact hgoal
  · have hlimits := hsearch.limits.trans htouch.limits
    cases m <;> exact hlimits

lemma exists_replanned (hmove : ∀ p ∈ moveTo, p.Inside width height)
    (hinside : ∀ p ∈ added ++ removed, p.Inside width height) (s : Planner width height) :
    ∃ t a, s.replan added removed moveTo = .ok (t, a) ∧ Replanned s t added removed moveTo := by
  obtain ⟨m, hm⟩ := exists_mapM_start hmove
  have has := toPoint_cells added fun p hp => hinside p (List.mem_append_left removed hp)
  have hrs := toPoint_cells removed fun p hp => hinside p (List.mem_append_right added hp)
  have hresult := Replanned.batch s m (cells added) (cells removed)
  rw [has, hrs, mapM_start_eq_ok.mp hm] at hresult
  refine ⟨_, ((m.elim s s.move).batch (cells added) (cells removed)).plan.2, ?_, hresult⟩
  rw [replan_eq, altered_eq_batch hm has hrs]
  rfl

/-- Replanning is all or nothing, in whatever state. If the new start is no cell, or else a listed point, the
first such point is named and the planner stays as it is; otherwise there is a plan, and the planner is changed
as asked. -/
theorem replan_all_or_nothing (s : Planner width height) (added removed : List Point) (moveTo : Option Point) :
    let result := Action.exec (Action.replan added removed moveTo) s
    (result = match s.replan added removed moveTo with
      | .ok (t, a) => (.ok a, t)
      | .error e => (.error e, s)) ∧
    (∀ p ∈ moveTo, ¬ p.Inside width height →
      result = (.error (.outOfBounds .start p width height), s)) ∧
    ((∀ p ∈ moveTo, p.Inside width height) →
      ∀ p, (added ++ removed).find? (fun p => ¬ p.Inside width height) = some p →
        result = (.error (.outOfBounds .obstacle p width height), s)) ∧
    ((∀ p ∈ moveTo, p.Inside width height) → (∀ p ∈ added ++ removed, p.Inside width height) →
      ∃ t a, result = (.ok a, t) ∧ Replanned s t added removed moveTo) := by
  have hexec := Action.exec_replan s added removed moveTo
  refine ⟨hexec, fun p hp hout => ?_, fun hmove p hp => ?_, fun hmove hinside => ?_⟩
  · rw [hexec, replan_of_start hp hout]
  · rw [hexec, replan_of_obstacle hmove hp]
  · obtain ⟨t, a, hok, hresult⟩ := exists_replanned hmove hinside s
    exact ⟨t, a, by rw [hexec, hok], hresult⟩

theorem replan_all_or_nothing_after_errand : ∃ s₀ : Planner 3 2,
    Planner.new 3 2 ⟨0, 0⟩ ⟨2, 0⟩ [] = .ok s₀ ∧ let s := s₀.after errand
      Action.exec (Action.replan [⟨1, 1⟩] [⟨3, 1⟩, ⟨0, 2⟩] (some ⟨0, 0⟩)) s =
          (.error (.outOfBounds .obstacle ⟨3, 1⟩ 3 2), s) ∧
        Action.exec (Action.replan [⟨3, 1⟩] [] (some ⟨0, 2⟩)) s =
          (.error (.outOfBounds .start ⟨0, 2⟩ 3 2), s) ∧
        ∃ t a, Action.exec (Action.replan [⟨1, 1⟩, ⟨1, 1⟩] [⟨1, 1⟩, ⟨1, 0⟩] (some ⟨0, 0⟩)) s = (.ok a, t) ∧
          Replanned s t [⟨1, 1⟩, ⟨1, 1⟩] [⟨1, 1⟩, ⟨1, 0⟩] (some ⟨0, 0⟩) := by
  have hnew : Planner.new 3 2 ⟨0, 0⟩ ⟨2, 0⟩ [] = .ok _ := rfl
  refine ⟨_, hnew, ?_, ?_, ?_⟩
  · exact (replan_all_or_nothing _ _ _ _).2.2.1 (by decide) ⟨3, 1⟩ rfl
  · exact (replan_all_or_nothing _ _ _ _).2.1 ⟨0, 2⟩ rfl (by decide)
  · exact (replan_all_or_nothing _ _ _ _).2.2.2 (by decide) (by decide)

end Navigation.Replanning.Planner
