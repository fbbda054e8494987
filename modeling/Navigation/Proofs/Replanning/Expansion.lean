import Navigation.Proofs.Replanning.Coherence

namespace Navigation.Replanning.Planner

variable {width height : ℕ} {s s' : Planner width height} {c d u : Cell width height}
  {e : Entry width height} {q : Queue width height} {l : List (Cell width height)}
  {x y : ℕ∞ ×ₗ ℕ∞}

noncomputable def toGoal (s : Planner width height) (c : Cell width height) : ℕ∞ :=
  s.graph.edist c s.goal

noncomputable def outcome (s : Planner width height) (u : Cell width height) : ℕ∞ :=
  if s.rhs u < s.g u then s.rhs u else ⊤

structure Expands (s : Planner width height) (u : Cell width height) (s' : Planner width height) : Prop
    extends Alike s s' where
  g : ∀ d, s'.g d = if d = u then s.outcome u else s.g d
  queued : ∀ d key, s'.queued d = some key →
    (d ≠ u ∧ s.queued d = some key ∧ s'.rhs d = s.rhs d) ∨ key = Key.of (s'.key d)

lemma Coherent.expands (h : s.Coherent {u}) (hq : s.queued u = none) {v : ℕ∞} (hv : s.outcome u = v)
    (hb : v ≠ ⊤ → v ≤ (width * height + s.moved : ℕ))
    (hr : Refreshes l (s.setG u (Cost.toFloat v)) s') : s.Expands u s' where
  start := hr.start
  goal := hr.goal
  blocked := hr.blocked
  km := hr.km
  limits := hr.limits
  g d := by rw [hr.g d, (h.exact.views_setG hb).1, hv]
  queued d key hd := by
    by_cases hl : d ∈ l
    · exact Or.inr (hr.fresh d hl key hd)
    · rw [hr.queued d hl] at hd
      refine Or.inl ⟨?_, hd, ?_⟩
      · rintro rfl
        cases hq.symm.trans hd
      · rw [hr.rhs d hl, (h.exact.views_setG hb).2]

lemma Coherent.settle (h : s.Coherent {u}) (hr : s.rhs u = s.due u) (hq : s.queued u = none)
    (hb : s.rhs u < s.g u → s.rhs u ≤ (width * height + s.moved : ℕ)) :
    (s.settle u).Coherent ∅ ∧ s.Expands u (s.settle u) := by
  have hlt := Cost.toFloat_lt (h.exact.rhs_exact u) (h.exact.g_exact u)
  unfold Planner.settle
  rw [h.exact.costs u]
  dsimp only
  split
  · rename_i hf
    have hover := hlt.mp hf
    have hv : s.outcome u = s.rhs u := if_pos hover
    obtain ⟨hset, hdue⟩ := h.setG hr hq fun _ => hb hover
    have hviews := h.exact.views_setG (c := u) (d := u) fun _ => hb hover
    have hset := hset.drop hdue (iff_of_true hq (by rw [hviews.1, hviews.2, if_pos rfl]))
    exact ⟨hset.updateNeighbors.1, h.expands hq hv (fun _ => hb hover) hset.updateNeighbors.2⟩
  · rename_i hf
    have hv : s.outcome u = ⊤ := if_neg fun hover => hf (hlt.mpr hover)
    have htop : (⊤ : ℕ∞) ≠ ⊤ → ⊤ ≤ ((width * height + s.moved : ℕ) : ℕ∞) := fun hne => (hne rfl).elim
    obtain ⟨hset, -⟩ := h.setG hr hq htop
    have hup := hset.updated
    rw [← Cost.toFloat_top]
    exact ⟨hup.updateNeighbors.1,
      h.expands hq hv htop ((hset.refreshes_update u).append hup.updateNeighbors.2)⟩

lemma Coherent.ne_of_stored (h : s.Coherent ∅) (hs : s.Stored c x) : s.g c ≠ s.rhs c := by
  intro he
  have hi := (h.idle c (Set.notMem_empty c)).mpr he
  rw [hs.queued] at hi
  cases hi

lemma Coherent.exists_stored (h : s.Coherent ∅) (hne : s.g c ≠ s.rhs c) : ∃ x, s.Stored c x := by
  cases hc : s.queued c with
  | none => exact (hne ((h.idle c (Set.notMem_empty c)).mp hc)).elim
  | some key =>
    obtain ⟨x, -, hx⟩ := h.stored c key hc
    exact ⟨x, hx⟩

lemma Coherent.quiet (h : s.Coherent ∅) {t : Cell width height} {b : ℕ∞}
    (hx : ∀ d y, s.Stored d y → toLex (b + s.lag t, b) ≤ y) :
    Quiet s.graph s.goal s.g (fun d => d.toPoint.manhattan t.toPoint) b where
  step c d hadj := roads.manhattan_le_succ hadj t
  settled d hle hlt := by
    have hrhs : s.rhs d = ahead s.graph s.goal s.g d := h.rhs d (Set.notMem_empty d)
    rw [← hrhs] at hle hlt ⊢
    by_contra hne
    obtain ⟨y, hy⟩ := h.exists_stored hne
    have hkey := (hx d y hy).trans hy.le_key
    refine hkey.not_gt (Prod.Lex.lt_iff.mpr ?_)
    have hfirst : s.least d + s.lag d ≤ b + s.lag t := by
      have ht := Point.manhattan_triangle d.toPoint t.toPoint s.start.toPoint
      have hlag : s.lag d ≤ d.toPoint.manhattan t.toPoint + s.lag t := by
        rw [lag, lag]
        omega
      calc s.least d + s.lag d
          ≤ s.least d + (d.toPoint.manhattan t.toPoint + s.lag t : ℕ) :=
            add_le_add_right (Nat.cast_le.mpr hlag) _
        _ = s.least d + (d.toPoint.manhattan t.toPoint : ℕ) + s.lag t := by
            rw [Nat.cast_add, add_assoc]
        _ ≤ b + s.lag t := add_le_add_left hle _
    rcases hfirst.lt_or_eq with hlt' | heq
    · exact Or.inl hlt'
    · exact Or.inr ⟨heq, hlt⟩

lemma Coherent.due_eq_toGoal (h : s.Coherent ∅)
    (hx : ∀ d y, s.Stored d y → toLex (s.rhs c + s.lag c, s.rhs c) ≤ y) : s.rhs c = s.toGoal c := by
  have hq := h.quiet hx
  rw [h.rhs c (Set.notMem_empty c), due] at hq ⊢
  exact hq.ahead_eq_edist (Point.manhattan_self _)

def step (s : Planner width height) : Option (Entry width height × Planner width height) :=
  match s.queue.pop? with
  | none => none
  | some (e, queue) =>
    if s.finished e.key then none else some (e, ({ s with queue } : Planner width height).settle e.cell)

lemma step_eq_some : s.step = some (e, s') ↔ ∃ q, s.queue.pop? = some (e, q) ∧
    s.finished e.key = false ∧ ({ s with queue := q } : Planner width height).settle e.cell = s' := by
  unfold step
  split
  · rename_i hp
    rw [hp]
    exact iff_of_false nofun (by rintro ⟨q, h, -⟩; cases h)
  · rename_i e' q hp
    rw [hp]
    split
    · rename_i hf
      refine iff_of_false nofun ?_
      rintro ⟨q', h, hf', -⟩
      cases h
      rw [hf] at hf'
      cases hf'
    · rename_i hf
      constructor
      · intro h
        cases h
        exact ⟨q, rfl, Bool.eq_false_iff.mpr hf, rfl⟩
      · rintro ⟨q', h, -, hs⟩
        cases h
        rw [hs]

lemma step_eq_none : s.step = none ↔ s.queue.pop? = none ∨
    ∃ e q, s.queue.pop? = some (e, q) ∧ s.finished e.key = true := by
  unfold step
  split
  · rename_i hp
    exact iff_of_true rfl (Or.inl hp)
  · rename_i e q hp
    rw [hp]
    split
    · rename_i hf
      exact iff_of_true rfl (Or.inr ⟨e, q, rfl, hf⟩)
    · rename_i hf
      refine iff_of_false nofun ?_
      rintro (h | ⟨e', q', h, hf'⟩)
      · cases h
      · cases h
        exact hf hf'

structure Heads (s : Planner width height) (u : Cell width height) (x : ℕ∞ ×ₗ ℕ∞) : Prop where
  stored : s.Stored u x
  le : ∀ d y, s.Stored d y → x ≤ y

lemma Coherent.heads (h : s.Coherent ∅) (hp : s.queue.pop? = some (e, q)) :
    ∃ x, e.key = Key.of x ∧ s.Heads e.cell x := by
  obtain ⟨x, hx, hs⟩ := h.stored e.cell e.key (h.valid.lookup_of_pop hp)
  refine ⟨x, hx, hs, fun d y hy => ?_⟩
  rw [← Key.place_of_le (hs.exact h.exact) (hy.exact h.exact), ← hx]
  exact h.valid.least_of_pop hp hy.queued

lemma Coherent.rhs_eq_toGoal (h : s.Coherent ∅) (hx : s.Heads u (s.key u)) (hover : s.rhs u < s.g u) :
    s.rhs u = s.toGoal u := by
  have hl : s.least u = s.rhs u := min_eq_right hover.le
  have hle := hx.le
  rw [key, hl] at hle
  exact h.due_eq_toGoal hle

lemma Coherent.rhs_le_of_heads (h : s.Coherent ∅) (hx : s.Heads u x) (hover : s.rhs u < s.g u) :
    s.rhs u ≤ (width * height + s.moved : ℕ) := by
  rcases hx.stored.bounded with rfl | hb
  · have hgoal := h.rhs_eq_toGoal hx hover
    have hlt := roads.edist_lt_card (hgoal ▸ hover.ne_top)
    rw [hgoal]
    exact hlt.le.trans (Nat.cast_le.mpr (Nat.le_add_right _ _))
  · rwa [least, min_eq_right hover.le] at hb

lemma Coherent.pop (h : s.Coherent ∅) (hp : s.queue.pop? = some (e, q)) :
    ({ s with queue := q } : Planner width height).Coherent {e.cell} := by
  have hq (d : Cell width height) :
      ({ s with queue := q } : Planner width height).queued d =
        if d = e.cell then none else s.queued d :=
    Queue.keys_of_pop hp
  constructor
  · exact ⟨h.exact.room, h.exact.km, h.exact.costs, h.exact.g_le, h.exact.rhs_le⟩
  · exact h.goal
  · intro d _
    exact h.rhs d (Set.notMem_empty d)
  · intro d hd
    rw [hq, if_neg (by simpa using hd)]
    exact h.idle d (Set.notMem_empty d)
  · exact h.valid.of_pop hp
  · intro d key hd
    rw [hq] at hd
    split at hd
    · cases hd
    · rename_i hne
      obtain ⟨x, hx, hs⟩ := h.stored d key hd
      have hqd : ({ s with queue := q } : Planner width height).queued d = some (Key.of x) := by
        rw [hq, if_neg hne, hd, hx]
      exact ⟨x, hx, ⟨hqd, hs.cost, hs.finite, hs.le, hs.bounded⟩⟩

lemma Alike.settle (s : Planner width height) (u : Cell width height) : s.Alike (s.settle u) := by
  have hset (v : Float) : s.Alike (s.setG u v) := ⟨rfl, rfl, rfl, rfl, rfl⟩
  unfold Planner.settle
  dsimp only
  split
  · exact (hset _).trans (foldl_update _ _)
  · exact ((hset _).trans (update _ u)).trans (foldl_update _ _)

lemma Alike.step (hs : s.step = some (e, s')) : s.Alike s' := by
  obtain ⟨q, -, -, rfl⟩ := step_eq_some.mp hs
  have ha := Alike.settle { s with queue := q } e.cell
  exact ⟨ha.start, ha.goal, ha.blocked, ha.km, ha.limits⟩

lemma Coherent.step (h : s.Coherent ∅) (hs : s.step = some (e, s')) :
    s'.Coherent ∅ ∧ s.Expands e.cell s' ∧ ∃ x, s.Heads e.cell x := by
  obtain ⟨q, hp, -, rfl⟩ := step_eq_some.mp hs
  obtain ⟨x, -, hx⟩ := h.heads hp
  have hq : ({ s with queue := q } : Planner width height).queued e.cell = none := by
    rw [queued]
    exact (Queue.keys_of_pop hp).trans (if_pos rfl)
  obtain ⟨hc, he⟩ := (h.pop hp).settle (h.rhs _ (Set.notMem_empty _)) hq (h.rhs_le_of_heads hx)
  refine ⟨hc, ⟨⟨he.start, he.goal, he.blocked, he.km, he.limits⟩, he.g, fun d key hd => ?_⟩, x, hx⟩
  rcases he.queued d key hd with ⟨hne, hd', hr⟩ | hf
  · have hqd : s.queued d = some key := by
      rw [← hd']
      exact ((Queue.keys_of_pop hp).trans (if_neg hne)).symm
    exact Or.inl ⟨hne, hqd, hr⟩
  · exact Or.inr hf

end Navigation.Replanning.Planner
