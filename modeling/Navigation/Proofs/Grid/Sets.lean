import Mathlib.Data.Finset.Dedup
import Mathlib.Data.List.FinRange
import Mathlib.Data.List.Sort
import Navigation.Grid.Map
import Navigation.Proofs.Grid.Roads

namespace Navigation

def Point.Before (p q : Point) : Prop := p.y < q.y ∨ p.y = q.y ∧ p.x < q.x

instance : Std.Irrefl Point.Before where
  irrefl p h := h.elim (lt_irrefl p.y) fun hx => lt_irrefl p.x hx.2

instance : Std.Antisymm Point.Before where
  antisymm p q hpq hqp := by
    simp only [Point.Before] at hpq hqp
    omega

namespace Cell

lemma pairwise_all (width height : ℕ) :
    (all width height).Pairwise fun c d => c.toPoint.Before d.toPoint := by
  rw [all, List.pairwise_flatMap]
  constructor
  · intro y _
    rw [List.pairwise_map]
    exact (List.pairwise_lt_finRange width).imp fun h => Or.inr ⟨rfl, h⟩
  · refine (List.pairwise_lt_finRange height).imp fun h c hc d hd => ?_
    obtain ⟨_, _, rfl⟩ := List.mem_map.mp hc
    obtain ⟨_, _, rfl⟩ := List.mem_map.mp hd
    exact Or.inl h

end Cell

namespace Grid

variable {g g' : Grid} {p q : Point} {ps : List Point} {b : Bool} {width height : ℕ} {S S' : Finset Point}

section Cells

@[simp] lemma mark_width (g : Grid) (b : Bool) (p : Point) : (g.mark b p).width = g.width := by
  unfold mark
  split <;> rfl

@[simp] lemma mark_height (g : Grid) (b : Bool) (p : Point) : (g.mark b p).height = g.height := by
  unfold mark
  split <;> rfl

lemma isBlocked_inside (h : p.Inside g.width g.height) : g.isBlocked p = g.blocked.lookup ⟨p, h⟩ := by
  rw [isBlocked, cell?, Cell.ofPoint?, dif_pos h]

lemma isBlocked_outside (h : ¬ p.Inside g.width g.height) : g.isBlocked p = true := by
  rw [isBlocked, cell?, Cell.ofPoint?, dif_neg h]

lemma isBlocked_mark (g : Grid) (b : Bool) (p q : Point) :
    (g.mark b p).isBlocked q = if q = p ∧ p.Inside g.width g.height then b else g.isBlocked q := by
  obtain ⟨width, height, blocked⟩ := g
  unfold mark cell? Cell.ofPoint?
  dsimp only
  split
  · rename_i c hc
    by_cases hp : p.Inside width height
    · rw [dif_pos hp] at hc
      obtain rfl := Option.some.inj hc
      by_cases hq : q.Inside width height
      · rw [isBlocked_inside hq, isBlocked_inside hq, Table.lookup_put]
        simp [hp]
      · rw [isBlocked_outside hq, isBlocked_outside hq, if_neg]
        rintro ⟨rfl, -⟩
        exact hq hp
    · rw [dif_neg hp] at hc
      cases hc
  · rename_i hc
    by_cases hp : p.Inside width height
    · rw [dif_pos hp] at hc
      cases hc
    · rw [if_neg fun h => hp h.2]

lemma isBlocked_clear (g : Grid) (p : Point) : g.clear.isBlocked p = true ↔ ¬ p.Inside g.width g.height := by
  by_cases hp : p.Inside g.width g.height
  · have hfree : g.clear.isBlocked p = false :=
      (isBlocked_inside (g := g.clear) hp).trans (Table.lookup_uniform false _)
    simp [hp, hfree]
  · exact iff_of_true (isBlocked_outside (g := g.clear) hp) hp

lemma foldl_block_size (ps : List Point) (g : Grid) :
    (ps.foldl block g).width = g.width ∧ (ps.foldl block g).height = g.height := by
  induction ps generalizing g with
  | nil => exact ⟨rfl, rfl⟩
  | cons p ps ih =>
    rw [List.foldl_cons, (ih _).1, (ih _).2, block, mark_width, mark_height]
    exact ⟨rfl, rfl⟩

lemma isBlocked_foldl_block (ps : List Point) (g : Grid) :
    (ps.foldl block g).isBlocked q = true ↔ g.isBlocked q = true ∨ q ∈ ps := by
  induction ps generalizing g with
  | nil => simp
  | cons p ps ih =>
    rw [List.foldl_cons, ih, block, isBlocked_mark, List.mem_cons]
    by_cases hq : q = p
    · subst hq
      by_cases hin : q.Inside g.width g.height
      · simp [hin]
      · simp [hin, isBlocked_outside hin]
    · simp [hq]

lemma mem_blockedCells : p ∈ g.blockedCells ↔ p.Inside g.width g.height ∧ g.isBlocked p = true := by
  rw [blockedCells, List.mem_map]
  constructor
  · rintro ⟨c, hc, rfl⟩
    exact ⟨c.inside, (isBlocked_inside c.inside).trans (List.mem_filter.mp hc).2⟩
  · rintro ⟨hp, hb⟩
    refine ⟨⟨p, hp⟩, List.mem_filter.mpr ⟨Cell.mem_all _, ?_⟩, rfl⟩
    rwa [isBlocked_inside hp] at hb

lemma pairwise_blockedCells (g : Grid) : g.blockedCells.Pairwise Point.Before :=
  List.pairwise_map.mpr ((Cell.pairwise_all _ _).sublist List.filter_sublist)

def scan (g : Grid) : List Point :=
  ((List.finRange (g.height * g.width)).filter fun a => g.blocked.entries[a]).map
    fun (a : Fin (g.height * g.width)) => ⟨a.val % g.width, a.val / g.width⟩

lemma mem_scan : p ∈ g.scan ↔ p.Inside g.width g.height ∧ g.isBlocked p = true := by
  rw [scan, List.mem_map]
  constructor
  · rintro ⟨a, ha, rfl⟩
    have hp : (⟨a.val % g.width, a.val / g.width⟩ : Point).Inside g.width g.height :=
      ⟨(Table.colOf a).isLt, (Table.rowOf a).isLt⟩
    have hentry : g.blocked.lookup ⟨_, hp⟩ = g.blocked.entries[a] :=
      congrArg (fun a : Fin (g.height * g.width) => g.blocked.entries[a]) (Table.address_rowOf_colOf a)
    exact ⟨hp, (isBlocked_inside hp).trans (hentry.trans (List.mem_filter.mp ha).2)⟩
  · rintro ⟨hp, hb⟩
    rw [isBlocked_inside hp] at hb
    refine ⟨Table.address ⟨p.y, hp.2⟩ ⟨p.x, hp.1⟩, List.mem_filter.mpr ⟨List.mem_finRange _, hb⟩, ?_⟩
    have hcol := congrArg Fin.val (Table.colOf_address (⟨p.y, hp.2⟩ : Fin g.height) (⟨p.x, hp.1⟩ : Fin g.width))
    have hrow := congrArg Fin.val (Table.rowOf_address (⟨p.y, hp.2⟩ : Fin g.height) (⟨p.x, hp.1⟩ : Fin g.width))
    exact congrArg₂ Point.mk hcol hrow

lemma pairwise_scan (g : Grid) : g.scan.Pairwise Point.Before := by
  rw [scan, List.pairwise_map]
  refine ((List.pairwise_lt_finRange _).sublist List.filter_sublist).imp fun {a b} hab => ?_
  rcases (Nat.div_le_div_right hab.le : a.val / g.width ≤ b.val / g.width).lt_or_eq with h | h
  · exact Or.inl h
  · refine Or.inr ⟨h, ?_⟩
    have ha := Nat.div_add_mod a.val g.width
    have hb := Nat.div_add_mod b.val g.width
    rw [← h] at hb
    dsimp only
    omega

theorem blockedCells_eq_scan (g : Grid) : g.blockedCells = g.scan :=
  (pairwise_blockedCells g).eq_of_mem_iff (pairwise_scan g) fun _ => mem_blockedCells.trans mem_scan.symm

lemma ext_isBlocked (hw : g.width = g'.width) (hh : g.height = g'.height)
    (h : ∀ p, g.isBlocked p = true ↔ g'.isBlocked p = true) : g = g' := by
  obtain ⟨width, height, blocked⟩ := g
  obtain ⟨width', height', blocked'⟩ := g'
  obtain rfl : width = width' := hw
  obtain rfl : height = height' := hh
  have ht : blocked = blocked' := by
    refine Table.ext fun y x => ?_
    have hp : (⟨x, y⟩ : Point).Inside width height := ⟨x.isLt, y.isLt⟩
    have hb := h ⟨x, y⟩
    rw [isBlocked_inside hp, isBlocked_inside hp] at hb
    exact Bool.eq_iff_iff.mpr hb
  rw [ht]

end Cells

section Edits

inductive Edit where
  | block (p : Point)
  | free (p : Point)
  | clear
  | blockLine (a b : Point)
  deriving DecidableEq

def Edit.run (g : Grid) : Edit → Except Overflow Grid
  | .block p => .ok (g.block p)
  | .free p => .ok (g.free p)
  | .clear => .ok g.clear
  | .blockLine a b => g.blockLine a b

def including (width height : ℕ) (S : Finset Point) (ps : List Point) : Finset Point :=
  S ∪ ps.toFinset.filter fun p => p.Inside width height

def Edit.change (width height : ℕ) (S : Finset Point) : Edit → Finset Point
  | .block p => including width height S [p]
  | .free p => S.erase p
  | .clear => ∅
  | .blockLine a b =>
    match line a b with
    | .ok ps => including width height S ps
    | .error _ => S

structure Script where
  width : ℕ
  height : ℕ
  obstacles : Option (List Point)
  edits : List Edit

namespace Script

def start (s : Script) : Except Overflow Grid :=
  match s.obstacles with
  | none => new s.width s.height
  | some ps => ofObstacles s.width s.height ps

def run (s : Script) : Except Overflow Grid := do
  s.edits.foldlM Edit.run (← s.start)

def cells (s : Script) : Finset Point :=
  s.edits.foldl (Edit.change s.width s.height) (including s.width s.height ∅ (s.obstacles.getD []))

end Script

structure Holds (g : Grid) (width height : ℕ) (S : Finset Point) : Prop where
  width_eq : g.width = width
  height_eq : g.height = height
  inside : ∀ p ∈ S, p.Inside width height
  blocked : ∀ p, g.isBlocked p = true ↔ ¬ p.Inside width height ∨ p ∈ S

lemma mem_including : p ∈ including width height S ps ↔ p ∈ S ∨ p ∈ ps ∧ p.Inside width height := by
  rw [including, Finset.mem_union, Finset.mem_filter, List.mem_toFinset]

lemma Holds.foldl_block (h : g.Holds width height S) (ps : List Point) :
    (ps.foldl Grid.block g).Holds width height (including width height S ps) where
  width_eq := (foldl_block_size ps g).1.trans h.width_eq
  height_eq := (foldl_block_size ps g).2.trans h.height_eq
  inside p hp := (mem_including.mp hp).elim (h.inside p) And.right
  blocked p := by
    rw [isBlocked_foldl_block, h.blocked, mem_including]
    tauto

lemma Holds.free (h : g.Holds width height S) (p : Point) : (g.free p).Holds width height (S.erase p) where
  width_eq := (mark_width g false p).trans h.width_eq
  height_eq := (mark_height g false p).trans h.height_eq
  inside q hq := h.inside q (Finset.mem_of_mem_erase hq)
  blocked q := by
    rw [Grid.free, isBlocked_mark, h.width_eq, h.height_eq, Finset.mem_erase]
    by_cases hq : q = p
    · subst hq
      by_cases hin : q.Inside width height
      · simp [hin]
      · simp [hin, h.blocked]
    · simp [hq, h.blocked]

lemma Holds.clear (h : g.Holds width height S) : g.clear.Holds width height ∅ where
  width_eq := h.width_eq
  height_eq := h.height_eq
  inside := nofun
  blocked p := by
    rw [isBlocked_clear, h.width_eq, h.height_eq]
    simp

lemma Holds.edit {e : Edit} (h : g.Holds width height S) (hrun : e.run g = .ok g') :
    g'.Holds width height (e.change width height S) := by
  cases e with
  | block p =>
    obtain rfl := Except.ok.inj hrun
    exact h.foldl_block [p]
  | free p =>
    obtain rfl := Except.ok.inj hrun
    exact h.free p
  | clear =>
    obtain rfl := Except.ok.inj hrun
    exact h.clear
  | blockLine a b =>
    rw [Edit.run, blockLine] at hrun
    rw [Edit.change]
    cases hline : line a b with
    | error e =>
      rw [hline] at hrun
      cases hrun
    | ok ps =>
      rw [hline] at hrun
      obtain rfl := Except.ok.inj hrun
      exact h.foldl_block ps

lemma Holds.edits {es : List Edit} (h : g.Holds width height S) (hrun : es.foldlM Edit.run g = .ok g') :
    g'.Holds width height (es.foldl (Edit.change width height) S) := by
  induction es generalizing g S with
  | nil =>
    obtain rfl := Except.ok.inj hrun
    exact h
  | cons e es ih =>
    rw [List.foldlM_cons] at hrun
    cases he : e.run g with
    | error e' =>
      rw [he] at hrun
      cases hrun
    | ok g₁ =>
      rw [he] at hrun
      exact ih (h.edit he) hrun

lemma holds_blank (width height : ℕ) : (⟨width, height, Table.uniform false⟩ : Grid).Holds width height ∅ where
  width_eq := rfl
  height_eq := rfl
  inside := nofun
  blocked p := (isBlocked_clear ⟨width, height, Table.uniform false⟩ p).trans (by simp)

lemma new_eq_ok : new width height = .ok g ↔
    (∃ n, Word.area cellBytes width height = .ok n) ∧ g = ⟨width, height, Table.uniform false⟩ := by
  rw [new]
  cases Word.area cellBytes width height with
  | error e => exact iff_of_false nofun fun h => by cases h.1.choose_spec
  | ok n => exact ⟨fun h => ⟨⟨n, rfl⟩, (Except.ok.inj h).symm⟩, fun h => congrArg _ h.2.symm⟩

lemma ofObstacles_eq_ok : ofObstacles width height ps = .ok g ↔
    (∃ n, Word.area cellBytes width height = .ok n) ∧
      g = ps.foldl block ⟨width, height, Table.uniform false⟩ := by
  rw [ofObstacles]
  cases hnew : new width height with
  | error e =>
    refine iff_of_false nofun fun h => ?_
    rw [new_eq_ok.mpr ⟨h.1, rfl⟩] at hnew
    cases hnew
  | ok g₀ =>
    obtain ⟨harea, rfl⟩ := new_eq_ok.mp hnew
    exact ⟨fun h => ⟨harea, (Except.ok.inj h).symm⟩, fun h => congrArg _ h.2.symm⟩

lemma Script.start_eq (s : Script) : s.start = ofObstacles s.width s.height (s.obstacles.getD []) := by
  rw [start]
  cases s.obstacles with
  | none =>
    rw [ofObstacles]
    cases new s.width s.height <;> rfl
  | some ps => rfl

lemma Script.run_eq_ok {s : Script} : s.run = .ok g ↔
    (∃ n, Word.area cellBytes s.width s.height = .ok n) ∧
      s.edits.foldlM Edit.run
        ((s.obstacles.getD []).foldl block ⟨s.width, s.height, Table.uniform false⟩) = .ok g := by
  rw [run, start_eq]
  cases hstart : ofObstacles s.width s.height (s.obstacles.getD []) with
  | error e =>
    refine iff_of_false nofun fun h => ?_
    rw [ofObstacles_eq_ok.mpr ⟨h.1, rfl⟩] at hstart
    cases hstart
  | ok g₀ =>
    obtain ⟨harea, rfl⟩ := ofObstacles_eq_ok.mp hstart
    exact ⟨fun h => ⟨harea, h⟩, And.right⟩

lemma Script.holds_run {s : Script} (h : s.run = .ok g) : g.Holds s.width s.height s.cells :=
  ((holds_blank s.width s.height).foldl_block _).edits (run_eq_ok.mp h).2

theorem Script.exists_run_iff (s : Script) : (∃ g, s.run = .ok g) ↔
    (∃ n, Word.area cellBytes s.width s.height = .ok n) ∧
      ∀ a b, Edit.blockLine a b ∈ s.edits → ∃ ps, line a b = .ok ps := by
  simp only [run_eq_ok, exists_and_left]
  refine and_congr_right fun _ => ?_
  generalize (s.obstacles.getD []).foldl block _ = g
  induction s.edits generalizing g with
  | nil => exact iff_of_true ⟨g, rfl⟩ nofun
  | cons e es ih =>
    rw [List.foldlM_cons]
    cases he : e.run g with
    | ok g₁ =>
      have hline (a b : Point) (heq : Edit.blockLine a b = e) : ∃ ps, line a b = .ok ps := by
        subst heq
        rw [Edit.run, blockLine] at he
        cases hline : line a b with
        | error _ =>
          rw [hline] at he
          cases he
        | ok ps => exact ⟨ps, rfl⟩
      refine (ih g₁).trans ⟨fun h a b hmem => ?_, fun h a b hmem => h a b (List.mem_cons_of_mem e hmem)⟩
      exact (List.mem_cons.mp hmem).elim (hline a b) (h a b)
    | error reason =>
      refine iff_of_false (by rintro ⟨g', h⟩; cases h) fun h => ?_
      cases e with
      | blockLine a b =>
        obtain ⟨ps, hps⟩ := h a b List.mem_cons_self
        rw [Edit.run, blockLine, hps] at he
        cases he
      | _ => cases he

lemma Holds.mem_iff (h : g.Holds width height S) : p ∈ S ↔ p.Inside width height ∧ g.isBlocked p = true := by
  rw [h.blocked]
  exact ⟨fun hp => ⟨h.inside p hp, Or.inr hp⟩, fun hp => hp.2.resolve_left (not_not_intro hp.1)⟩

lemma Holds.mem_blockedCells (h : g.Holds width height S) : p ∈ g.blockedCells ↔ p ∈ S := by
  rw [Grid.mem_blockedCells, h.mem_iff, h.width_eq, h.height_eq]

lemma Holds.eq_iff (h : g.Holds width height S) {width' height' : ℕ} (h' : g'.Holds width' height' S') :
    g = g' ↔ width = width' ∧ height = height' ∧ S = S' := by
  constructor
  · rintro rfl
    obtain ⟨rfl, rfl⟩ := And.intro (h.width_eq.symm.trans h'.width_eq) (h.height_eq.symm.trans h'.height_eq)
    exact ⟨rfl, rfl, Finset.ext fun p => by rw [h.mem_iff, h'.mem_iff]⟩
  · rintro ⟨rfl, rfl, rfl⟩
    exact ext_isBlocked (h.width_eq.trans h'.width_eq.symm) (h.height_eq.trans h'.height_eq.symm)
      fun p => by rw [h.blocked, h'.blocked]

lemma Holds.foldl_blockedCells (h : g.Holds width height S) :
    g.blockedCells.foldl block ⟨width, height, Table.uniform false⟩ = g := by
  have hback := (holds_blank width height).foldl_block g.blockedCells
  refine (hback.eq_iff h).mpr ⟨rfl, rfl, Finset.ext fun p => ?_⟩
  rw [mem_including, h.mem_blockedCells]
  exact ⟨fun hp => (hp.resolve_left (Finset.notMem_empty p)).1, fun hp => Or.inr ⟨hp, h.inside p hp⟩⟩

/-- A grid is the set of its blocked cells: what it tells, what it lists, what can be built from the list and
what it equals follow from the set and the size. -/
theorem run_refines {s : Script} (h : s.run = .ok g) :
    (∀ p, g.isBlocked p = true ↔ ¬ p.Inside s.width s.height ∨ p ∈ s.cells) ∧
      (g.blockedCells.toFinset = s.cells ∧ g.blockedCells.Nodup ∧ g.blockedCells.Pairwise Point.Before) ∧
      ofObstacles s.width s.height g.blockedCells = .ok g ∧
      ∀ (t : Script) (g' : Grid), t.run = .ok g' →
        (g = g' ↔ s.width = t.width ∧ s.height = t.height ∧ s.cells = t.cells) := by
  have hholds := Script.holds_run h
  refine ⟨hholds.blocked, ⟨?_, ?_, pairwise_blockedCells g⟩, ?_, ?_⟩
  · exact Finset.ext fun p => List.mem_toFinset.trans hholds.mem_blockedCells
  · exact (pairwise_blockedCells g).nodup
  · exact ofObstacles_eq_ok.mpr ⟨(Script.run_eq_ok.mp h).1, hholds.foldl_blockedCells.symm⟩
  · exact fun t g' ht => hholds.eq_iff (Script.holds_run ht)

def fence : Script where
  width := 3
  height := 2
  obstacles := some [⟨1, 1⟩, ⟨7, 7⟩]
  edits := [.block ⟨0, 0⟩, .free ⟨1, 1⟩, .blockLine ⟨2, 0⟩ ⟨2, 4⟩, .free ⟨3, 0⟩]

def rebuilt : Script where
  width := 3
  height := 2
  obstacles := none
  edits := [.block ⟨1, 0⟩, .clear, .blockLine ⟨2, 1⟩ ⟨2, 0⟩, .block ⟨0, 0⟩]

def fenced : Grid := ⟨3, 2, ⟨#v[true, false, true, false, false, true]⟩⟩

theorem run_refines_fence :
    fence.run = .ok fenced ∧ rebuilt.run = .ok fenced ∧ fence.cells = {⟨0, 0⟩, ⟨2, 0⟩, ⟨2, 1⟩} ∧
      (∀ p, fenced.isBlocked p = true ↔ ¬ p.Inside 3 2 ∨ p ∈ fence.cells) ∧
      ofObstacles 3 2 fenced.blockedCells = .ok fenced ∧ fence.cells = rebuilt.cells := by
  have hrun : fence.run = .ok fenced := by rfl
  have hrebuilt : rebuilt.run = .ok fenced := by rfl
  have h := run_refines hrun
  exact ⟨hrun, hrebuilt, by decide, h.1, h.2.2.1, ((h.2.2.2 rebuilt fenced hrebuilt).mp rfl).2.2⟩

end Edits

end Grid

end Navigation
