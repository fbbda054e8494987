import Navigation.Proofs.Number.Cost
import Navigation.Proofs.Sorted
import Navigation.Replanning.Queue

namespace Navigation.Replanning

namespace Key

def place (k : Key) : ℕ ×ₗ ℕ := toLex (k.first.rank, k.second.rank)

lemma compare_place (a b : Key) : compare a b = compare a.place b.place := by
  rw [Prod.Lex.compare_def]
  rfl

lemma compare_eq_lt {a b : Key} : compare a b = .lt ↔ a.place < b.place := by
  rw [compare_place, compare_lt_iff_lt]

lemma compare_eq_gt {a b : Key} : compare a b = .gt ↔ b.place < a.place := by
  rw [compare_place, compare_gt_iff_gt]

noncomputable def of (x : ℕ∞ ×ₗ ℕ∞) : Key :=
  ⟨.ofFloat (Cost.toFloat (ofLex x).1), .ofFloat (Cost.toFloat (ofLex x).2)⟩

def Exact (x : ℕ∞ ×ₗ ℕ∞) : Prop := Cost.Exact (ofLex x).1 ∧ Cost.Exact (ofLex x).2

lemma place_of_lt {x y : ℕ∞ ×ₗ ℕ∞} (hx : Exact x) (hy : Exact y) :
    (of x).place < (of y).place ↔ x < y := by
  have heq {c d : ℕ∞} (hc : Cost.Exact c) (hd : Cost.Exact d) :
      (Priority.ofFloat (Cost.toFloat c)).rank = (Priority.ofFloat (Cost.toFloat d)).rank ↔ c = d := by
    have hcd := Cost.rank_lt hc hd
    have hdc := Cost.rank_lt hd hc
    refine ⟨fun h => le_antisymm ?_ ?_, fun h => by rw [h]⟩
    · exact not_lt.mp fun hlt => (hdc.mpr hlt).ne' h
    · exact not_lt.mp fun hlt => (hcd.mpr hlt).ne h
  rw [place, place, Prod.Lex.toLex_lt_toLex, Prod.Lex.lt_iff]
  exact or_congr (Cost.rank_lt hx.1 hy.1) (and_congr (heq hx.1 hy.1) (Cost.rank_lt hx.2 hy.2))

lemma place_of_le {x y : ℕ∞ ×ₗ ℕ∞} (hx : Exact x) (hy : Exact y) :
    (of x).place ≤ (of y).place ↔ x ≤ y := by
  rw [← not_lt, place_of_lt hy hx, not_lt]

end Key

variable {width height : ℕ}

lemma Entry.compare_eq_gt {a b : Entry width height} (h : compare a b = .gt) :
    b.key.place ≤ a.key.place := by
  rcases Ordering.then_eq_gt.mp h with hgt | ⟨heq, _⟩
  · exact (Key.compare_eq_gt.mp hgt).le
  · refine not_lt.mp fun hlt => ?_
    rw [Key.compare_eq_lt.mpr hlt] at heq
    exact Ordering.noConfusion heq

lemma Entry.compare_ne_gt {a b : Entry width height} (h : compare a b ≠ .gt) :
    a.key.place ≤ b.key.place :=
  not_lt.mp fun hlt => h (Ordering.then_eq_gt.mpr (Or.inl (Key.compare_eq_gt.mpr hlt)))

namespace Queue

variable {q q' : Queue width height} {c d : Cell width height} {e : Entry width height} {key : Key}

structure Valid (q : Queue width height) : Prop where
  sorted : q.entries.Pairwise fun a b => a.key.place ≤ b.key.place
  nodup : q.entries.Nodup
  mem_iff : ∀ e, e ∈ q.entries ↔ q.keys.lookup e.cell = some e.key

lemma valid_empty : (empty : Queue width height).Valid where
  sorted := List.Pairwise.nil
  nodup := List.nodup_nil
  mem_iff e := by simp [empty]

lemma Valid.insert (h : q.Valid) (hc : q.keys.lookup c = none) (key : Key) :
    (q.insert c key).Valid where
  sorted := Sorted.pairwise_insert (fun _ _ => Entry.compare_eq_gt) (fun _ _ => Entry.compare_ne_gt)
    h.sorted _
  nodup := by
    refine (Sorted.perm_insert _ _).nodup_iff.mpr (List.nodup_cons.mpr ⟨?_, h.nodup⟩)
    rw [h.mem_iff, hc]
    exact nofun
  mem_iff e := by
    have hm : e ∈ (q.insert c key).entries ↔ e = ⟨key, c⟩ ∨ e ∈ q.entries := Sorted.mem_insert
    rw [hm, h.mem_iff]
    change _ ↔ (q.keys.put c (some key)).lookup e.cell = some e.key
    obtain ⟨k, d⟩ := e
    rw [Table.lookup_put, Entry.mk.injEq]
    by_cases hd : d = c
    · subst d
      simp [hc, eq_comm]
    · simp [hd]

lemma keys_insert : (q.insert c key).keys.lookup d = if d = c then some key else q.keys.lookup d :=
  Table.lookup_put _ _ _ _

lemma keys_remove : (q.remove c).keys.lookup d = if d = c then none else q.keys.lookup d := by
  unfold remove
  split
  · exact Table.lookup_put _ _ _ _
  · rename_i hc
    split
    · rename_i hd
      rw [hd, hc]
    · rfl

lemma Valid.remove (h : q.Valid) (c : Cell width height) : (q.remove c).Valid := by
  have hkeys := fun e : Entry width height => keys_remove (q := q) (c := c) (d := e.cell)
  unfold Queue.remove at hkeys ⊢
  split
  · rename_i key hc
    rw [hc] at hkeys
    refine ⟨h.sorted.sublist List.erase_sublist, h.nodup.erase _, fun e => ?_⟩
    rw [hkeys e, h.nodup.mem_erase_iff, h.mem_iff]
    obtain ⟨k, d⟩ := e
    rw [Ne, Entry.mk.injEq]
    by_cases hd : d = c
    · subst d
      simp [hc, eq_comm]
    · simp [hd]
  · exact h

lemma pop_eq_none : q.pop? = none ↔ q.entries = [] := by
  unfold pop?
  split
  · rename_i hes
    exact iff_of_true rfl hes
  · rename_i hes
    rw [hes]
    exact iff_of_false nofun nofun

lemma pop_eq_some :
    q.pop? = some (e, q') ↔ q.entries = e :: q'.entries ∧ q'.keys = q.keys.put e.cell none := by
  obtain ⟨es', keys'⟩ := q'
  unfold pop?
  split
  · rename_i hes
    rw [hes]
    exact iff_of_false nofun nofun
  · rename_i x es hes
    rw [hes, Option.some_inj, Prod.mk.injEq, Queue.mk.injEq, List.cons.injEq]
    constructor
    · rintro ⟨rfl, rfl, rfl⟩
      exact ⟨⟨rfl, rfl⟩, rfl⟩
    · rintro ⟨⟨rfl, rfl⟩, rfl⟩
      exact ⟨rfl, rfl, rfl⟩

lemma keys_of_pop (hp : q.pop? = some (e, q')) :
    q'.keys.lookup d = if d = e.cell then none else q.keys.lookup d := by
  rw [(pop_eq_some.mp hp).2, Table.lookup_put]

lemma Valid.eq_none_of_pop (h : q.Valid) (hp : q.pop? = none) : q.keys.lookup d = none := by
  refine Option.eq_none_iff_forall_ne_some.mpr fun key hd => ?_
  have hm : (⟨key, d⟩ : Entry width height) ∈ q.entries := (h.mem_iff _).mpr hd
  rw [pop_eq_none.mp hp] at hm
  exact List.not_mem_nil hm

lemma Valid.lookup_of_pop (h : q.Valid) (hp : q.pop? = some (e, q')) :
    q.keys.lookup e.cell = some e.key := by
  rw [← h.mem_iff, (pop_eq_some.mp hp).1]
  exact List.mem_cons_self

lemma Valid.least_of_pop (h : q.Valid) (hp : q.pop? = some (e, q')) (hd : q.keys.lookup d = some key) :
    e.key.place ≤ key.place := by
  have hm : (⟨key, d⟩ : Entry width height) ∈ q.entries := (h.mem_iff _).mpr hd
  have hs := h.sorted
  rw [(pop_eq_some.mp hp).1] at hm hs
  rcases List.mem_cons.mp hm with rfl | hm
  · exact le_rfl
  · exact (List.pairwise_cons.mp hs).1 _ hm

lemma Valid.of_pop (h : q.Valid) (hp : q.pop? = some (e, q')) : q'.Valid := by
  have hs := h.sorted
  have hn := h.nodup
  rw [(pop_eq_some.mp hp).1] at hs hn
  obtain ⟨he, hn⟩ := List.nodup_cons.mp hn
  refine ⟨(List.pairwise_cons.mp hs).2, hn, fun x => ?_⟩
  have hm := h.mem_iff x
  rw [(pop_eq_some.mp hp).1, List.mem_cons] at hm
  rw [keys_of_pop hp]
  by_cases hx : x.cell = e.cell
  · rw [if_pos hx]
    refine iff_of_false (fun hmem => he ?_) nofun
    have hkey : some e.key = some x.key := by
      rw [← h.lookup_of_pop hp, ← hx, hm.mp (Or.inr hmem)]
    have hex : e = x := by
      obtain ⟨_, _⟩ := e
      obtain ⟨_, _⟩ := x
      rw [Entry.mk.injEq]
      exact ⟨Option.some.inj hkey, hx.symm⟩
    rwa [hex]
  · rw [if_neg hx, ← hm]
    exact (or_iff_right fun he => hx (by rw [he])).symm

end Queue

end Navigation.Replanning
