namespace Navigation.Ranking

variable {α : Type}

def place (before : α → α → Bool) (x : α) : List α → List α
  | [] => [x]
  | y :: ys => if before x y then y :: place before x ys else x :: y :: ys

def sort (before : α → α → Bool) (xs : List α) : List α :=
  (xs.foldl (fun sorted x => place before x sorted) []).reverse

theorem perm_place (before : α → α → Bool) (x : α) (ys : List α) :
    (place before x ys).Perm (x :: ys) := by
  induction ys with
  | nil => exact List.Perm.refl _
  | cons y ys ih =>
    by_cases h : before x y
    · simpa [place, h] using (ih.cons y).trans (List.Perm.swap x y ys)
    · simp [place, h]

theorem perm_foldl_place (before : α → α → Bool) (xs sorted : List α) :
    (xs.foldl (fun sorted x => place before x sorted) sorted).Perm (xs ++ sorted) := by
  induction xs generalizing sorted with
  | nil => exact List.Perm.refl _
  | cons x xs ih =>
    exact (ih _).trans (((perm_place before x sorted).append_left xs).trans List.perm_middle)

theorem perm_sort (before : α → α → Bool) (xs : List α) : (sort before xs).Perm xs := by
  have h := perm_foldl_place before xs []
  rw [List.append_nil] at h
  exact (List.reverse_perm _).trans h

@[simp] theorem length_sort (before : α → α → Bool) (xs : List α) :
    (sort before xs).length = xs.length :=
  (perm_sort before xs).length_eq

def order {n : Nat} (before : Fin n → Fin n → Bool) : Vector (Fin n) n :=
  ⟨(sort before (List.finRange n)).toArray, by simp⟩

end Navigation.Ranking
