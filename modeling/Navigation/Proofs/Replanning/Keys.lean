import Navigation.Proofs.Number.Tally
import Navigation.Proofs.Replanning.Answers
import Navigation.Proofs.Replanning.Scripts

namespace Navigation.Replanning.Planner

variable {width height : ℕ} {s s₀ : Planner width height} {c d : Cell width height}
  {e : Entry width height} {a : Act width height} {w : List (Act width height)}
  {F : Set (Cell width height)} {x : ℕ∞ ×ₗ ℕ∞} {n : ℕ} {limits : Limits} {p q : Point}
  {obstacles : List Point}

lemma move_self (hkm : s.km = Float.ofNat n) (hn : n < 2 ^ 53) : s.move s.start = s := by
  have hsum : s.km + distance s.start s.start = s.km := by
    rw [distance, Point.manhattan_self, hkm]
    exact Whole.add_ofNat hn
  rw [move, hsum]

def Current (s : Planner width height) (F : Set (Cell width height)) : Prop :=
  ∀ c ∈ F, ∀ key, s.queued c = some key → key = s.keyOf c

namespace Current

lemma keyOf_congr {s' : Planner width height} (hcost : s'.costAt c = s.costAt c)
    (hstart : s'.start = s.start) (hkm : s'.km = s.km) : s'.keyOf c = s.keyOf c := by
  rw [keyOf, hcost, hstart, hkm, keyOf]

lemma update (h : s.Current F) (c : Cell width height) : (s.update c).Current (insert c F) := by
  intro d hd key hkey
  by_cases hc : d = c
  · subst d
    rw [queued_update_self] at hkey
    split at hkey
    · cases hkey
    · exact (Option.some.inj hkey).symm
  · rw [queued_update_of_ne hc] at hkey
    have hcost : (s.update c).costAt d = s.costAt d := by rw [costAt_update, if_neg hc]
    rw [keyOf_congr hcost start_update km_update]
    exact h d (hd.resolve_left hc) key hkey

lemma take (h : s.Current F) : (s.act .take).Current F := by
  cases hp : s.queue.pop? with
  | none =>
    have htake : s.act .take = s := by rw [act, hp]
    rwa [htake]
  | some r =>
    obtain ⟨e, q⟩ := r
    rw [act_take hp]
    intro d hd key hkey
    have hq : q.keys.lookup d = some key := hkey
    rw [Queue.keys_of_pop hp] at hq
    split at hq
    · cases hq
    · rename_i hne
      have hcost := (costAt_setG (s := { s with queue := q }) (c := e.cell) (d := d)
        (v := if (s.costAt e.cell).rhs < (s.costAt e.cell).g then (s.costAt e.cell).rhs
          else Plan.infinity)).trans (if_neg hne)
      exact (h d hd key hq).trans (keyOf_congr (s := s) hcost rfl rfl).symm

lemma act (h : s.Current F) (hkm : s.km = Float.ofNat n) (hn : n < 2 ^ 53)
    (ha : ∀ c, a = .move c → c = s.start) :
    (s.act a).Current (F ∪ {c | a = .update c}) ∧ (s.act a).start = s.start ∧ (s.act a).km = s.km := by
  have hsame (ht : (s.act a).Current F) (hne : ∀ c, a ≠ .update c) :
      (s.act a).Current (F ∪ {c | a = .update c}) := by
    have hnone : {c | a = .update c} = ∅ := Set.eq_empty_iff_forall_notMem.mpr hne
    rwa [hnone, Set.union_empty]
  cases a with
  | move c =>
    obtain rfl := ha c rfl
    have hmove : s.act (.move s.start) = s := move_self hkm hn
    exact ⟨hsame (by rwa [hmove]) nofun, rfl, by rw [hmove]⟩
  | mark b c => exact ⟨hsame h nofun, rfl, rfl⟩
  | take =>
    obtain ⟨hstart, hkm', -⟩ := act_of_still (s := s) (a := .take) nofun
    exact ⟨hsame h.take nofun, hstart, hkm'⟩
  | update c =>
    have hset : F ∪ {d | Act.update c = .update d} = insert c F := by
      ext d
      simp [eq_comm]
    rw [hset]
    exact ⟨h.update c, start_update, km_update⟩

lemma run (h : s.Current F) (hkm : s.km = Float.ofNat n) (hn : n < 2 ^ 53)
    (hw : ∀ c, .move c ∈ w → c = s.start) : (s.run w).Current (F ∪ {c | .update c ∈ w}) := by
  induction w generalizing s F with
  | nil =>
    have hnone : {c : Cell width height | .update c ∈ ([] : List (Act width height))} = ∅ := by simp
    rwa [hnone, Set.union_empty]
  | cons a w ih =>
    obtain ⟨hact, hstart, hkm'⟩ := h.act hkm hn fun c hc => hw c (hc ▸ List.mem_cons_self)
    have hrun := ih hact (hkm'.trans hkm) fun c hc =>
      (hw c (List.mem_cons_of_mem a hc)).trans hstart.symm
    have hset : F ∪ {c | .update c ∈ a :: w} = F ∪ {c | a = .update c} ∪ {c | .update c ∈ w} := by
      ext c
      simp [eq_comm, or_assoc]
    rwa [hset]

end Current

lemma current_of_new (hnew : Planner.new width height p q obstacles limits = .ok s₀) :
    s₀.Current Set.univ := by
  obtain ⟨-, start, goal, cs, -, -, -, rfl⟩ := new_eq_ok.mp hnew
  have hblank : (blank start goal (marked cs) limits).Current Set.univ := by
    intro c _ key hkey
    have hnone : (blank start goal (marked cs) limits).queued c = none := Table.lookup_uniform none c
    cases hnone.symm.trans hkey
  have hset : insert goal Set.univ = (Set.univ : Set (Cell width height)) :=
    Set.insert_eq_of_mem (Set.mem_univ goal)
  exact hset ▸ hblank.update goal

lemma Coherent.key_le (h : s.Coherent ∅) (he : e ∈ s.queue.entries) :
    e.key.second = .ofFloat (s.costAt e.cell).least ∧
      e.key.first.toFloat ≤ (s.costAt e.cell).least + distance e.cell s.start + s.km ∧
      compare e.key (s.keyOf e.cell) ≠ .gt := by
  obtain ⟨x, hx, hs⟩ := h.stored e.cell e.key ((h.valid.mem_iff e).mp he)
  have hexact := hs.exact h.exact
  have hpresent : Cost.Exact (s.least e.cell + s.lag e.cell) := (h.exact.key_exact e.cell).1
  have hle := hs.le
  obtain ⟨m, hm⟩ := ENat.ne_top_iff_exists.mp hs.finite
  rw [← hm, ← Nat.cast_add] at hle hpresent
  obtain ⟨l, hl⟩ := ENat.ne_top_iff_exists.mp (hle.trans_lt (ENat.natCast_lt_top _)).ne
  have hl' : l < 2 ^ 53 := hexact.1 l hl.symm
  refine ⟨?_, ?_, ?_⟩
  · rw [hx, h.exact.least_eq, ← hs.cost]
    rfl
  · rw [hx, Key.of, h.exact.first_eq, ← hm, ← hl, ← Nat.cast_add, Cost.toFloat_coe, Cost.toFloat_coe,
      Cost.toFloat_ofFloat hl', Tally.ofNat_le_ofNat hl'.le (Cost.exact_coe.mp hpresent).le]
    exact Nat.cast_le.mp (hl.trans_le hle)
  · rw [hx, h.exact.keyOf_eq, ne_eq, Key.compare_eq_gt, Key.place_of_lt (h.exact.key_exact _) hexact]
    exact hs.le_key.not_gt

/-- Whatever has happened before: an entry of the queue holds the cost of its cell, and a first
component that is no more than that of the present key. It is the present key if the cell was last
queued after the start had last changed. -/
theorem key_le_after (hnew : Planner.new width height p q obstacles limits = .ok s₀)
    (calls : List (Call width height)) (hw : Within width height (s₀.travelled calls)) :
    let s := s₀.after calls
    (∀ e ∈ s.queue.entries, e.key.second = .ofFloat (s.costAt e.cell).least ∧
      e.key.first.toFloat ≤ (s.costAt e.cell).least + distance e.cell s.start + s.km ∧
      compare e.key (s.keyOf e.cell) ≠ .gt) ∧
    s₀.run (s₀.history calls) = s ∧
    ∀ before since, s₀.history calls = before ++ since →
      (∀ c, .move c ∈ since → c = (s₀.run before).start) →
      ∀ e ∈ s.queue.entries, before = [] ∨ .update e.cell ∈ since → e.key = s.keyOf e.cell := by
  obtain ⟨-, h, -, -⟩ := coherent_after hnew hw
  have hw₀ : Within width height (s₀.travelled []) := hw.mono (Nat.zero_le _)
  obtain ⟨-, h₀, hmoved, -⟩ := coherent_after hnew hw₀
  have hkm : s₀.km = Float.ofNat 0 := h₀.exact.km.trans (by rw [hmoved]; rfl)
  refine ⟨fun e he => h.key_le he, run_history s₀ calls, fun before since hsplit hstart e he hsince => ?_⟩
  have hlt : 0 + s₀.leaps before < 2 ^ 53 := by
    have hleaps := leaps_history s₀ calls
    rw [hsplit, leaps_append] at hleaps
    unfold Within at hw
    omega
  -- all keys of a new planner are present ones; of a later one nothing is known but by an update since
  have hcurrent : (s₀.run before).Current (if before = [] then Set.univ else ∅) := by
    split
    · rename_i hnil
      rw [hnil]
      exact current_of_new hnew
    · exact fun c hc => absurd hc (Set.notMem_empty c)
  have hrun := hcurrent.run (km_run hkm hlt) hlt hstart
  rw [← run_append, ← hsplit, run_history] at hrun
  refine hrun e.cell ?_ e.key ((h.valid.mem_iff e).mp he)
  rcases hsince with hnil | hmem
  · exact Or.inl (by rw [if_pos hnil]; exact Set.mem_univ _)
  · exact Or.inr hmem

theorem key_le_after_errand : ∃ s₀ : Planner 3 2,
    Planner.new 3 2 ⟨0, 0⟩ ⟨2, 0⟩ [] = .ok s₀ ∧ Within 3 2 (s₀.travelled errand) ∧
      let s := s₀.after errand
      s.queue.size = 1 ∧ (∀ e ∈ s.queue.entries, compare e.key (s.keyOf e.cell) ≠ .gt) ∧
        ∀ e ∈ s.queue.entries, e.key = s.keyOf e.cell := by
  have hnew : Planner.new 3 2 ⟨0, 0⟩ ⟨2, 0⟩ [] = .ok _ := rfl
  refine ⟨_, hnew, by decide +kernel, by decide +kernel, fun e he => ?_, fun e he => ?_⟩
  · exact ((key_le_after hnew errand (by decide +kernel)).1 e he).2.2
  · -- the robot moves with the eleventh act
    exact (key_le_after hnew errand (by decide +kernel)).2.2 _ _ (List.take_append_drop 11 _).symm
      (by decide +kernel) e he (Or.inr (by revert e; decide +kernel))

end Navigation.Replanning.Planner
