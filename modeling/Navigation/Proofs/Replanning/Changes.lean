import Navigation.Proofs.Replanning.Coherence

/-! A new planner, a moved robot and a changed map. -/

namespace Navigation

namespace Table

variable {width height : ℕ} {α : Type}

lemma ext_lookup {t t' : Table height width α} (h : ∀ c, t.lookup c = t'.lookup c) : t = t' :=
  Table.ext fun y x => h ⟨⟨x, y⟩, x.isLt, y.isLt⟩

lemma lookup_map {β : Type} (f : α → β) (t : Table height width α) (c : Cell width height) :
    (t.map f).lookup c = f (t.lookup c) := get_map f t _ _

lemma map_put {β : Type} (f : α → β) (t : Table height width α) (c : Cell width height) (x : α) :
    (t.put c x).map f = (t.map f).put c (f x) := by
  refine ext_lookup fun d => ?_
  rw [lookup_map, lookup_put, lookup_put, lookup_map, apply_ite f]

lemma put_lookup (t : Table height width α) (c : Cell width height) : t.put c (t.lookup c) = t := by
  refine ext_lookup fun d => ?_
  rw [lookup_put]
  split
  · rename_i h
    rw [h]
  · rfl

end Table

namespace Replanning.Planner

variable {width height : ℕ} {s s' : Planner width height} {c d : Cell width height}
  {start goal : Cell width height} {blocked : Table height width Bool} {limits : Limits}

noncomputable section

lemma Exact.km_move (h : s.Exact) (c : Cell width height)
    (hroom : s.moved + s.start.toPoint.manhattan c.toPoint < 2 ^ 53) :
    (s.move c).km = Float.ofNat (s.moved + s.start.toPoint.manhattan c.toPoint) ∧
      (s.move c).moved = s.moved + s.start.toPoint.manhattan c.toPoint := by
  have hkm : (s.move c).km = Float.ofNat (s.moved + s.start.toPoint.manhattan c.toPoint) := by
    change s.km + distance s.start c = _
    rw [h.km, distance, Whole.add_ofNat hroom]
  refine ⟨hkm, ?_⟩
  rw [moved, hkm, ← Cost.toFloat_coe, Cost.value_toFloat (Cost.exact_coe.mpr hroom), ENat.toNat_natCast]

lemma lag_le_move (hmoved : (s.move c).moved = s.moved + s.start.toPoint.manhattan c.toPoint)
    (d : Cell width height) : s.lag d ≤ (s.move c).lag d := by
  have ht := Point.manhattan_triangle d.toPoint c.toPoint s.start.toPoint
  have hcomm := Point.manhattan_comm c.toPoint s.start.toPoint
  have hstart : (s.move c).start = c := rfl
  rw [lag, lag, hmoved, hstart]
  omega

lemma Coherent.move (h : s.Coherent ∅) (c : Cell width height)
    (hroom : width * height + (width + height) +
      2 * (s.moved + s.start.toPoint.manhattan c.toPoint) < 2 ^ 53) :
    (s.move c).Coherent ∅ ∧
      (s.move c).moved = s.moved + s.start.toPoint.manhattan c.toPoint := by
  obtain ⟨hkm, hmoved⟩ := h.exact.km_move c (by omega)
  refine ⟨?_, hmoved⟩
  by_cases hc : c = s.start
  · have hs : s.move c = s := by
      subst c
      rw [Point.manhattan_self, add_zero, ← h.exact.km] at hkm
      have : s.move s.start = { s with km := (s.move s.start).km } := rfl
      rw [this, hkm]
    rw [hs]
    exact h
  have hpos : 0 < s.start.toPoint.manhattan c.toPoint :=
    Nat.pos_of_ne_zero fun h0 => hc (Cell.toPoint_injective (Point.eq_of_manhattan h0).symm)
  constructor
  · refine ⟨by rwa [hmoved], by rw [hkm, hmoved], h.exact.costs, fun d hd => ?_, fun d hd => ?_⟩
    · exact (h.exact.g_le d hd).trans (Nat.cast_le.mpr (by omega))
    · exact (h.exact.rhs_le d hd).trans (Nat.cast_le.mpr (by omega))
  · exact h.goal
  · exact h.rhs
  · exact h.idle
  · exact h.valid
  · intro d key hd
    obtain ⟨x, hx, hs⟩ := h.stored d key hd
    refine ⟨x, hx, hs.queued, hs.cost, hs.finite, ?_, Or.inr ?_⟩
    · exact hs.le.trans (add_le_add_right (Nat.cast_le.mpr (lag_le_move hmoved d)) _)
    · refine (h.exact.least_le d hs.finite).trans (Nat.cast_le.mpr ?_)
      rw [hmoved]
      omega

lemma due_put (b : Bool) (hne : d ≠ c) (hd : d ∉ c.neighbors) :
    ({ s with blocked := s.blocked.put c b } : Planner width height).due d = s.due d := by
  refine ahead_congr_graph fun e => ?_
  change _ ∧ (s.blocked.put c b).lookup d = false ∧ (s.blocked.put c b).lookup e = false ↔ _
  rw [Table.lookup_put, Table.lookup_put, if_neg hne]
  by_cases he : e = c
  · subst e
    have hn : c ∉ d.neighbors := fun hc => hd (Cell.mem_neighbors_comm.mp hc)
    exact iff_of_false (fun h => hn h.1) fun h => hn h.1
  · rw [if_neg he]
    rfl

lemma Alike.change (s : Planner width height) (b : Bool) (c : Cell width height) :
    Alike { s with blocked := s.blocked.put c b } (s.change b c) :=
  (Alike.update _ c).trans (Alike.foldl_update _ c.neighbors)

lemma Coherent.mark (h : s.Coherent ∅) (b : Bool) (c : Cell width height) :
    ({ s with blocked := s.blocked.put c b } : Planner width height).Coherent
      (insert c {d | d ∈ c.neighbors}) := by
  constructor
  · exact ⟨h.exact.room, h.exact.km, h.exact.costs, h.exact.g_le, h.exact.rhs_le⟩
  · exact h.goal
  · intro d hd
    rw [Set.mem_insert_iff, not_or] at hd
    rw [due_put b hd.1 hd.2]
    exact h.rhs d (Set.notMem_empty d)
  · intro d _
    exact h.idle d (Set.notMem_empty d)
  · exact h.valid
  · intro d key hd
    obtain ⟨x, hx, hs⟩ := h.stored d key hd
    exact ⟨x, hx, ⟨hs.queued, hs.cost, hs.finite, hs.le, hs.bounded⟩⟩

lemma Coherent.change (h : s.Coherent ∅) (b : Bool) (c : Cell width height) :
    (s.change b c).Coherent ∅ :=
  (h.mark b c).updated.updateNeighbors.1

lemma foldl_change_eq (b : Bool) (l : List (Cell width height)) (s : Planner width height) :
    (l.foldl (change b) s).start = s.start ∧ (l.foldl (change b) s).goal = s.goal ∧
      (l.foldl (change b) s).km = s.km ∧ (l.foldl (change b) s).limits = s.limits := by
  induction l generalizing s with
  | nil => exact ⟨rfl, rfl, rfl, rfl⟩
  | cons c l ih =>
    obtain ⟨hstart, hgoal, hkm, hlimits⟩ := ih (s.change b c)
    have ha := Alike.change s b c
    exact ⟨hstart.trans ha.start, hgoal.trans ha.goal, hkm.trans ha.km, hlimits.trans ha.limits⟩

lemma blocked_foldl_change (b : Bool) (l : List (Cell width height)) (s : Planner width height) :
    (l.foldl (change b) s).blocked = l.foldl (fun t c => t.put c b) s.blocked := by
  induction l generalizing s with
  | nil => rfl
  | cons c l ih =>
    rw [List.foldl_cons, ih, (Alike.change s b c).blocked]
    rfl

lemma Coherent.foldl_change (h : s.Coherent ∅) (b : Bool) (l : List (Cell width height)) :
    (l.foldl (Planner.change b) s).Coherent ∅ := by
  induction l generalizing s with
  | nil => exact h
  | cons c l ih => exact ih (h.change b c)

def blank (start goal : Cell width height) (blocked : Table height width Bool) (limits : Limits) :
    Planner width height where
  start := start
  goal := goal
  costs := (Table.uniform Costs.unseen).put goal { Costs.unseen with rhs := 0.0 }
  queue := Queue.empty
  blocked := blocked
  km := 0.0
  limits := limits

def fresh (start goal : Cell width height) (blocked : Table height width Bool) (limits : Limits) :
    Planner width height :=
  (blank start goal blocked limits).update goal

lemma costAt_blank_eq_ite : (blank start goal blocked limits).costAt d =
    if d = goal then { Costs.unseen with rhs := 0.0 } else Costs.unseen := by
  change ((Table.uniform Costs.unseen).put goal { Costs.unseen with rhs := 0.0 }).lookup d = _
  rw [Table.lookup_put, Table.lookup_uniform]

lemma costAt_blank : (blank start goal blocked limits).costAt d =
    ⟨Cost.toFloat ⊤, Cost.toFloat (if d = goal then 0 else ⊤)⟩ := by
  have hzero : Cost.toFloat 0 = 0.0 := Cost.toFloat_coe 0
  rw [costAt_blank_eq_ite, Cost.toFloat_top]
  split
  · rw [hzero, Costs.unseen]
  · rw [Cost.toFloat_top, Costs.unseen]

lemma views_blank : (blank start goal blocked limits).g d = ⊤ ∧
    (blank start goal blocked limits).rhs d = if d = goal then 0 else ⊤ := by
  refine views_of_costAt costAt_blank Cost.exact_top ?_
  split
  · exact Cost.exact_coe.mpr (by norm_num)
  · exact Cost.exact_top

lemma moved_blank : (blank start goal blocked limits).moved = 0 := by
  have hkm : (blank start goal blocked limits).km = Cost.toFloat 0 := (Cost.toFloat_coe 0).symm
  have hzero : Cost.Exact 0 := Cost.exact_coe.mpr (by norm_num)
  rw [moved, hkm, Cost.value_toFloat hzero, ENat.toNat_zero]

lemma due_blank : (blank start goal blocked limits).due d = if d = goal then 0 else ⊤ := by
  by_cases hd : d = goal
  · rw [if_pos hd, hd]
    exact ahead_goal
  · have hg : ¬ d = (blank start goal blocked limits).goal := hd
    rw [if_neg hd, due, ahead, if_neg hg]
    refine iInf₂_eq_top.mpr fun e _ => ?_
    rw [views_blank.1, top_add]

lemma coherent_blank (hroom : width * height + (width + height) < 2 ^ 53) :
    (blank start goal blocked limits).Coherent {goal} := by
  have hg (d : Cell width height) : (blank start goal blocked limits).g d = ⊤ := views_blank.1
  have hr (d : Cell width height) : (blank start goal blocked limits).rhs d = if d = goal then 0 else ⊤ :=
    views_blank.2
  have hq (d : Cell width height) : (blank start goal blocked limits).queued d = none :=
    Table.lookup_uniform none d
  constructor
  · refine ⟨by rw [moved_blank]; omega, ?_, fun d => ?_, fun d hd => ?_, fun d hd => ?_⟩
    · rw [moved_blank]
      rfl
    · rw [costAt_blank, hg, hr]
    · exact (hd (hg d)).elim
    · rw [hr] at hd ⊢
      split
      · exact zero_le
      · rename_i hne
        exact (hd (if_neg hne)).elim
  · exact (hr goal).trans (if_pos rfl)
  · intro d _
    rw [hr, due_blank]
  · intro d hd
    rw [hq, hg, hr, if_neg (by simpa using hd)]
    exact iff_of_true rfl rfl
  · exact Queue.valid_empty
  · intro d key hd
    rw [hq] at hd
    cases hd

lemma coherent_fresh (hroom : width * height + (width + height) < 2 ^ 53) :
    (fresh start goal blocked limits).Coherent ∅ := by
  have hb : (blank start goal blocked limits).Coherent {goal} := coherent_blank hroom
  have h := hb.update goal
  rwa [Set.sdiff_self] at h

lemma alike_fresh : Alike (blank start goal blocked limits) (fresh start goal blocked limits) :=
  Alike.update _ goal

lemma limits_fresh : (fresh start goal blocked limits).limits = limits := alike_fresh.limits

lemma g_fresh : (fresh start goal blocked limits).g d = ⊤ := by
  rw [fresh, g_update, views_blank.1]

lemma update_goal (hq : s.queued s.goal = none) : s.update s.goal = s.enqueue s.goal := by
  have hl : s.lookahead s.goal = (s.costAt s.goal).rhs := if_pos rfl
  have hset : s.setRhs s.goal (s.lookahead s.goal) = s := by
    rw [hl, setRhs]
    change { s with costs := s.costs.put s.goal (s.costs.lookup s.goal) } = s
    rw [Table.put_lookup]
  have hrem : s.dequeue s.goal = s := by
    rw [queued] at hq
    rw [dequeue, Queue.remove, hq]
  rw [update, hset, hrem]

lemma fresh_eq : fresh start goal blocked limits = (blank start goal blocked limits).enqueue goal :=
  update_goal (s := blank start goal blocked limits) (Table.lookup_uniform none goal)

lemma bind_eq_ok {ε α β : Type} {x : Except ε α} {f : α → Except ε β} {b : β} :
    x >>= f = .ok b ↔ ∃ a, x = .ok a ∧ f a = .ok b := by
  cases x with
  | error e => exact iff_of_false nofun (by rintro ⟨a, h, -⟩; cases h)
  | ok a => exact ⟨fun h => ⟨a, rfl, h⟩, by rintro ⟨b, h, hb⟩; cases h; exact hb⟩

lemma mapError_eq_ok {ε ε' α : Type} {x : Except ε α} {f : ε → ε'} {a : α} :
    x.mapError f = .ok a ↔ x = .ok a := by
  cases x with
  | error e => simp [Except.mapError]
  | ok b => rw [Except.mapError, Except.ok.injEq, Except.ok.injEq]

lemma cell_eq_ok {role : Role} {p : Point} : cell role p = .ok c ↔ c.toPoint = p := by
  obtain ⟨q, hq⟩ := c
  unfold cell Cell.ofPoint?
  split
  · rename_i e he
    split at he
    · obtain rfl := Option.some.inj he
      rw [Except.ok.injEq, Cell.mk.injEq]
      exact eq_comm
    · cases he
  · rename_i he
    split at he
    · cases he
    · rename_i hp
      refine iff_of_false (fun h => by cases h) ?_
      rintro rfl
      exact hp hq

lemma mapM_cell_eq_ok {role : Role} {ps : List Point} {cs : List (Cell width height)} :
    ps.mapM (cell role) = .ok cs ↔ cs.map Cell.toPoint = ps := by
  induction ps generalizing cs with
  | nil =>
    rw [List.mapM_nil, List.map_eq_nil_iff]
    exact ⟨fun h => (Except.ok.inj h).symm, fun h => by rw [h]; rfl⟩
  | cons p ps ih =>
    rw [List.mapM_cons]
    simp only [bind_eq_ok, ih, cell_eq_ok]
    constructor
    · rintro ⟨c, rfl, ds, rfl, h⟩
      rw [← Except.ok.inj h, List.map_cons]
    · intro h
      obtain ⟨c, ds, rfl, rfl, rfl⟩ := List.map_eq_cons_iff.mp h
      exact ⟨c, rfl, ds, rfl, rfl⟩

lemma mapM_start_eq_ok {role : Role} {moveTo : Option Point} {m : Option (Cell width height)} :
    moveTo.mapM (cell role) = .ok m ↔ m.map Cell.toPoint = moveTo := by
  cases moveTo with
  | none =>
    rw [Option.map_eq_none_iff]
    exact ⟨fun h => (Except.ok.inj h).symm, fun h => by rw [h]; rfl⟩
  | some p =>
    change some <$> cell role p = _ ↔ _
    rw [map_eq_pure_bind, bind_eq_ok, Option.map_eq_some_iff]
    simp only [cell_eq_ok]
    exact ⟨fun ⟨c, hc, h⟩ => ⟨c, (Except.ok.inj h).symm, hc⟩, fun ⟨c, h, hc⟩ => ⟨c, hc, congrArg _ h.symm⟩⟩

def cells (ps : List Point) : List (Cell width height) := ps.filterMap (Cell.ofPoint? width height)

lemma toPoint_cells (ps : List Point) (h : ∀ p ∈ ps, p.Inside width height) :
    (cells ps : List (Cell width height)).map Cell.toPoint = ps := by
  induction ps with
  | nil => rfl
  | cons p ps ih =>
    have hp : Cell.ofPoint? width height p = some ⟨p, h p List.mem_cons_self⟩ :=
      dif_pos (h p List.mem_cons_self)
    rw [cells, List.filterMap_cons_some hp, List.map_cons, ← cells,
      ih fun q hq => h q (List.mem_cons_of_mem p hq)]

def marked (cs : List (Cell width height)) : Table height width Bool :=
  cs.foldl (fun t c => t.put c true) (Table.uniform false)

lemma lookup_foldl_put (b : Bool) (cs : List (Cell width height)) (t : Table height width Bool)
    (d : Cell width height) : (cs.foldl (fun t c => t.put c b) t).lookup d = if d ∈ cs then b else t.lookup d := by
  induction cs generalizing t with
  | nil => simp
  | cons c cs ih =>
    rw [List.foldl_cons, ih, Table.lookup_put]
    by_cases hd : d = c <;> simp [hd]

lemma lookup_marked {cs : List (Cell width height)} : (marked cs).lookup d = decide (d ∈ cs) := by
  rw [marked, lookup_foldl_put, Table.lookup_uniform]
  by_cases hd : d ∈ cs <;> simp [hd]

structure Feasible (width height : ℕ) (limits : Limits) : Prop where
  nonempty : ¬ (width = 0 ∨ height = 0)
  limits : limits.validate = .ok ()
  area : ∃ n, Word.area cellBytes width height = .ok n

lemma new_eq_ok {p q : Point} {obstacles : List Point} :
    Planner.new width height p q obstacles limits = .ok s ↔ Feasible width height limits ∧
      ∃ (start goal : Cell width height) (cs : List (Cell width height)), start.toPoint = p ∧
        goal.toPoint = q ∧ cs.map Cell.toPoint = obstacles ∧
        s = fresh start goal (marked cs) limits := by
  unfold new
  dsimp only
  split
  · rename_i h
    exact iff_of_false nofun fun hf => hf.1.nonempty h
  · rename_i h
    simp only [bind_eq_ok, mapError_eq_ok, cell_eq_ok, mapM_cell_eq_ok]
    constructor
    · rintro ⟨_, hl, n, ha, start, hs, goal, hg, cs, hc, he⟩
      refine ⟨⟨h, hl, n, ha⟩, start, goal, cs, hs, hg, hc, ?_⟩
      rw [← Except.ok.inj he, fresh_eq]
      rfl
    · rintro ⟨hf, start, goal, cs, hs, hg, hc, rfl⟩
      obtain ⟨n, ha⟩ := hf.area
      refine ⟨(), hf.limits, n, ha, start, hs, goal, hg, cs, hc, ?_⟩
      rw [fresh_eq]
      rfl

end

end Replanning.Planner

end Navigation
