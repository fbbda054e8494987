import Navigation.Matrix.Ranking.Short

namespace Navigation.Ranking

variable {α : Type}

structure Run (α : Type) where
  sorted : Bool
  elements : List α

def stretch (keeps : α → α → Bool) : List α → Nat
  | [] => 0
  | [_] => 1
  | x :: y :: xs => if keeps x y then stretch keeps (y :: xs) + 1 else 1

def firstRun (before : α → α → Bool) (xs : List α) : List α :=
  let falling := stretch (fun x y => before y x) xs
  if 2 ≤ falling then (xs.take falling).reverse
  else xs.take (stretch (fun x y => !before y x) xs)

def roughRoot (n : Nat) : Nat :=
  let shift := (1 + n.log2) / 2
  (Nat.pow 2 shift + n / Nat.pow 2 shift) / 2

def worthwhile (n : Nat) : Nat := if n ≤ 4096 then min (n - n / 2) 64 else roughRoot n

def nextRun? (before : α → α → Bool) (eager : Bool) (least : Nat) (xs : List α) :
    Option (Run α) :=
  let found := firstRun before xs
  if least ≤ found.length then some ⟨true, found⟩
  else if eager then (sortShort? before (xs.take shortLength)).map (⟨true, ·⟩)
  else some ⟨false, xs.take least⟩

def runs? (before : α → α → Bool) (eager : Bool) (least : Nat) :
    Nat → List α → Option (List (Run α))
  | _, [] => some []
  | 0, _ => none
  | fuel + 1, xs => do
    let run ← nextRun? before eager least xs
    return run :: (← runs? before eager least fuel (xs.drop run.elements.length))

def joinDepth (n low middle high : Nat) : Nat :=
  let scale := (Nat.pow 2 62 + n - 1) / n
  let differing := (scale * (low + middle)) ^^^ (scale * (middle + high))
  if differing = 0 then 64 else 63 - differing.log2

def mergeSorted (before : α → α → Bool) (left right : List α) : List α :=
  if left.isEmpty || right.isEmpty then left ++ right
  else if left.length ≤ right.length then left.merge right fun x y => !before y x
  else (left.reverse.merge right.reverse fun x y => before y x).reverse

abbrev Finish (α : Type) := List α → Option (List α)

def Run.finish? (finish : Finish α) (run : Run α) : Option (List α) :=
  if run.sorted then some run.elements else finish run.elements

def Run.join? (before : α → α → Bool) (finish : Finish α) (left right : Run α) :
    Option (Run α) :=
  if left.sorted || right.sorted then do
    return ⟨true, mergeSorted before (← left.finish? finish) (← right.finish? finish)⟩
  else
    some ⟨false, left.elements ++ right.elements⟩

def joinLeft? (before : α → α → Bool) (finish : Finish α) (depth : Nat) :
    List (Run α × Nat) → Run α → Option (List (Run α × Nat) × Run α)
  | [], run => some ([], run)
  | (left, d) :: rest, run =>
    if depth ≤ d then do joinLeft? before finish depth rest (← left.join? before finish run)
    else some ((left, d) :: rest, run)

def joinRuns? (before : α → α → Bool) (finish : Finish α) (n : Nat) (waiting : List (Run α × Nat))
    (run : Run α) (done : Nat) : List (Run α) → Option (Run α)
  | [] => do return (← joinLeft? before finish 0 waiting run).2
  | next :: runs => do
    let high := done + next.elements.length
    let depth := joinDepth n (done - run.elements.length) done high
    let (waiting, run) ← joinLeft? before finish depth waiting run
    joinRuns? before finish n ((run, depth) :: waiting) next high runs

def sortRuns? (before : α → α → Bool) (eager : Bool) (finish : Finish α) (xs : List α) :
    Option (List α) := do
  match ← runs? before eager (worthwhile xs.length) xs.length xs with
  | [] => return []
  | run :: runs =>
    let all ← joinRuns? before finish xs.length [] run run.elements.length runs
    all.finish? finish

def sortByRuns? (before : α → α → Bool) (xs : List α) : Option (List α) :=
  sortRuns? before true some xs

end Navigation.Ranking
