namespace Navigation.Sorted

variable {α : Type} [Ord α]

def insert (x : α) : List α → List α
  | [] => [x]
  | y :: ys => if compare x y = .gt then y :: insert x ys else x :: y :: ys

theorem perm_insert (x : α) (ys : List α) : (insert x ys).Perm (x :: ys) := by
  induction ys with
  | nil => exact List.Perm.refl _
  | cons y ys ih =>
    by_cases h : compare x y = .gt
    · simpa [insert, h] using (ih.cons y).trans (List.Perm.swap x y ys)
    · simp [insert, h]

end Navigation.Sorted
