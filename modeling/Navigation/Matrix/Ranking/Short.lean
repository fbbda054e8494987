import Navigation.Matrix.Ranking

namespace Navigation.Ranking

variable {α : Type}

def extend (before : α → α → Bool) (sorted xs : List α) : List α :=
  (xs.foldl (fun sorted x => place before x sorted) sorted.reverse).reverse

def meet? (before : α → α → Bool) (left right : List α) : Option (List α) :=
  let half := left.length
  let xs := left.map (·, true)
  let ys := right.map (·, false)
  let front := (xs.merge ys fun x y => !before y.1 x.1).take half
  let back := (xs.reverse.merge ys.reverse fun x y => before y.1 x.1).take half
  let fromLeft := front.countP (·.2) + back.countP (·.2)
  let fromRight := front.countP (!·.2) + back.countP (!·.2)
  if fromLeft ≤ half ∧ fromRight ≤ right.length then
    some (front.map (·.1) ++ (left.drop (front.countP (·.2))).take (half - fromLeft) ++
      (right.drop (front.countP (!·.2))).take (right.length - fromRight) ++
      (back.map (·.1)).reverse)
  else
    none

def ordered (before : α → α → Bool) (x y : α) : α × α := if before y x then (y, x) else (x, y)

def sortFour (before : α → α → Bool) : List α → List α
  | [x, y, z, w] =>
    let (a, b) := ordered before x y
    let (c, d) := ordered before z w
    match before c a, before d b with
    | false, false => let (l, h) := ordered before b c; [a, l, h, d]
    | true, false => let (l, h) := ordered before a b; [c, l, h, d]
    | false, true => let (l, h) := ordered before c d; [a, l, h, b]
    | true, true => let (l, h) := ordered before a d; [c, l, h, b]
  | xs => xs

def shortLength : Nat := 32

def sortHalf? (before : α → α → Bool) (length : Nat) (xs : List α) : Option (List α) :=
  if 16 ≤ length then do
    let start ← meet? before (sortFour before (xs.take 4)) (sortFour before ((xs.drop 4).take 4))
    return extend before start (xs.drop 8)
  else if 8 ≤ length then
    some (extend before (sortFour before (xs.take 4)) (xs.drop 4))
  else
    some (extend before [] xs)

def sortShort? (before : α → α → Bool) (xs : List α) : Option (List α) := do
  let half := xs.length / 2
  let left ← sortHalf? before xs.length (xs.take half)
  let right ← sortHalf? before xs.length (xs.drop half)
  meet? before left right

end Navigation.Ranking
