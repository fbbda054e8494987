import Navigation.Matrix.Ranking.Partition

/-!
Orders of values some of which do not compare. A few values are ordered by insertion, many by runs
and partitions, and a comparison that is found to contradict itself gives no order.
-/

namespace Navigation.Ranking

variable {α : Type}

def insertionLength : Nat := 20

def sort? (before : α → α → Bool) (xs : List α) : Option (List α) :=
  let n := xs.length
  if n ≤ insertionLength then some (sort before xs)
  else if n ≤ 2 * shortLength then sortByRuns? before xs
  else sortRuns? before false (fun xs => sortByPartition? before (2 * xs.length.log2) none xs) xs

/-- The indices of `n` values, those that go before others first. All stable sorts by a `lawful`
comparison agree, so there insertion answers for values of any number. -/
def order? {n : Nat} (lawful : Bool) (before : Fin n → Fin n → Bool) : Option (Vector (Fin n) n) :=
  if lawful then some (order before)
  else do
    let xs ← sort? before (List.finRange n)
    if h : xs.toArray.size = n then return ⟨xs.toArray, h⟩ else none

end Navigation.Ranking
