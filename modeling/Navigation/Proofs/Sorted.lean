import Mathlib.Order.Basic
import Navigation.Sorted

/-! Insertion keeps a list in the order of any measure that the comparison respects. -/

namespace Navigation.Sorted

variable {α β : Type} [Ord α] [Preorder β] {f : α → β} {xs : List α} {x y : α}

lemma mem_insert : y ∈ insert x xs ↔ y = x ∨ y ∈ xs :=
  (perm_insert x xs).mem_iff.trans List.mem_cons

lemma pairwise_insert (hgt : ∀ a b : α, compare a b = .gt → f b ≤ f a)
    (hle : ∀ a b : α, compare a b ≠ .gt → f a ≤ f b) (h : xs.Pairwise fun a b => f a ≤ f b) (x : α) :
    (insert x xs).Pairwise fun a b => f a ≤ f b := by
  induction xs with
  | nil => exact List.pairwise_singleton _ x
  | cons y ys ih =>
    obtain ⟨hy, hys⟩ := List.pairwise_cons.mp h
    rw [insert]
    split
    · rename_i hxy
      refine List.pairwise_cons.mpr ⟨fun z hz => ?_, ih hys⟩
      rcases mem_insert.mp hz with rfl | hz
      · exact hgt z y hxy
      · exact hy z hz
    · rename_i hxy
      have hle' := hle x y hxy
      refine List.pairwise_cons.mpr ⟨fun z hz => ?_, h⟩
      rcases List.mem_cons.mp hz with rfl | hz
      · exact hle'
      · exact le_trans hle' (hy z hz)

end Navigation.Sorted
