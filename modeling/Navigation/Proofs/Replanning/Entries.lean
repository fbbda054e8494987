import Navigation.Proofs.Replanning.Records

namespace Navigation

lemma Priority.rank_injective : Function.Injective Priority.rank := by
  rintro ⟨p⟩ ⟨q⟩ h
  have hp := p.toNat_lt
  have hq := q.toNat_lt
  have hhalf : Word.half = 2 ^ 63 := rfl
  have hgreatest : Word.greatest = 2 ^ 64 - 1 := rfl
  have hbits : p.toNat = q.toNat := by
    unfold Priority.rank at h
    dsimp only at h
    split at h <;> split at h <;> omega
  rw [UInt64.toNat_inj.mp hbits]

namespace Replanning

variable {width height : ℕ}

namespace Key

lemma place_injective : Function.Injective place := by
  rintro ⟨a, b⟩ ⟨a', b'⟩ h
  obtain ⟨ha, hb⟩ := Prod.mk.inj h
  obtain rfl : a = a' := Priority.rank_injective ha
  obtain rfl : b = b' := Priority.rank_injective hb
  rfl

end Key

namespace Entry

variable {a b : Entry width height}

def standing (e : Entry width height) : (ℕ ×ₗ ℕ) ×ₗ ℕ ×ₗ ℕ :=
  toLex (e.key.place, toLex (e.cell.x, e.cell.y))

lemma standing_injective : Function.Injective (standing : Entry width height → _) := by
  rintro ⟨k, ⟨⟨x, y⟩, h⟩⟩ ⟨k', ⟨⟨x', y'⟩, h'⟩⟩ he
  obtain ⟨hk, hp⟩ := Prod.mk.inj he
  obtain ⟨hx, hy⟩ := Prod.mk.inj hp
  obtain rfl := Key.place_injective hk
  obtain rfl : x = x' := hx
  obtain rfl : y = y' := hy
  rfl

lemma compare_standing (a b : Entry width height) : compare a b = compare a.standing b.standing := by
  simp only [Prod.Lex.compare_def, compareLex, compareOn]
  rfl

lemma compare_eq_gt_iff : compare a b = .gt ↔ b.standing < a.standing := by
  rw [compare_standing, compare_gt_iff_gt]

end Entry

namespace Queue

variable {q q' : Queue width height} {c : Cell width height} {e : Entry width height}

def Ordered (q : Queue width height) : Prop := q.entries.Pairwise fun a b => a.standing ≤ b.standing

namespace Ordered

lemma insert (h : q.Ordered) (c : Cell width height) (key : Key) : (q.insert c key).Ordered :=
  Sorted.pairwise_insert (fun _ _ hgt => (Entry.compare_eq_gt_iff.mp hgt).le)
    (fun _ _ hle => not_lt.mp fun hlt => hle (Entry.compare_eq_gt_iff.mpr hlt)) h _

lemma remove (h : q.Ordered) (c : Cell width height) : (q.remove c).Ordered := by
  unfold Queue.remove
  split
  · exact List.Pairwise.sublist List.erase_sublist h
  · exact h

lemma of_pop (h : q.Ordered) (hp : q.pop? = some (e, q')) : q'.Ordered := by
  unfold Ordered at h
  rw [(pop_eq_some.mp hp).1] at h
  exact (List.pairwise_cons.mp h).2

lemma ext (ho : q.Ordered) (ho' : q'.Ordered) (h : q.Valid) (h' : q'.Valid)
    (hkeys : ∀ c, q.keys.lookup c = q'.keys.lookup c) : q = q' := by
  have hmem (e : Entry width height) : e ∈ q.entries ↔ e ∈ q'.entries := by
    rw [h.mem_iff, h'.mem_iff, hkeys]
  have hperm : q.entries.Perm q'.entries := (List.perm_ext_iff_of_nodup h.nodup h'.nodup).mpr hmem
  have hentries : q.entries = q'.entries := hperm.eq_of_pairwise
    (fun a b _ _ hab hba => Entry.standing_injective (le_antisymm hab hba)) ho ho'
  obtain ⟨es, keys⟩ := q
  obtain ⟨es', keys'⟩ := q'
  obtain rfl : es = es' := hentries
  obtain rfl : keys = keys' := Table.ext_lookup hkeys
  rfl

end Ordered

end Queue

namespace Planner

variable {s s' : Planner width height} {e : Entry width height} {start goal : Cell width height}
  {blocked : Table height width Bool} {limits : Limits}

lemma ordered_update (h : s.queue.Ordered) (c : Cell width height) : (s.update c).queue.Ordered := by
  rw [queue_update]
  split
  · exact h.remove c
  · exact (h.remove c).insert c _

lemma ordered_updateNeighbors (h : s.queue.Ordered) (c : Cell width height) :
    (s.updateNeighbors c).queue.Ordered := by
  unfold updateNeighbors
  induction c.neighbors generalizing s with
  | nil => exact h
  | cons d l ih => exact ih (ordered_update h d)

lemma ordered_settle (h : s.queue.Ordered) (c : Cell width height) : (s.settle c).queue.Ordered := by
  unfold settle
  dsimp only
  split
  · exact ordered_updateNeighbors (s := s.setG c _) h c
  · exact ordered_updateNeighbors (ordered_update (s := s.setG c _) h c) c

lemma kept_ordered : Kept fun s : Planner width height => s.queue.Ordered where
  move _ _ h := h
  change s b c h :=
    ordered_updateNeighbors (ordered_update (s := { s with blocked := s.blocked.put c b }) h c) c
  update _ c h := ordered_update h c
  step s e s' h hs := by
    obtain ⟨q, hp, -, rfl⟩ := step_eq_some.mp hs
    exact ordered_settle (h.of_pop hp) e.cell

lemma ordered_fresh : (fresh start goal blocked limits).queue.Ordered := by
  have hblank : (blank start goal blocked limits).queue.Ordered := List.Pairwise.nil
  exact ordered_update hblank goal

end Planner

end Replanning

end Navigation
