import Navigation.Matrix.Ranking.Runs

/-! A stable sort of long lists by partition. -/

namespace Navigation.Ranking

variable {α : Type}

def median (before : Nat → Nat → Bool) (a b c : Nat) : Nat :=
  let x := before a b
  if x = before a c then if before b c = x then b else c else a

def spreadMedian (before : Nat → Nat → Bool) (a b c width : Nat) : Nat :=
  if h : 8 ≤ width then
    let near (p : Nat) : Nat :=
      spreadMedian before p (p + 4 * (width / 8)) (p + 7 * (width / 8)) (width / 8)
    median before (near a) (near b) (near c)
  else
    median before a b c
termination_by width

def pivotPosition (before : α → α → Bool) (xs : Array α) : Nat :=
  let eighth := xs.size / 8
  let less (i j : Nat) : Bool :=
    match xs[i]?, xs[j]? with
    | some x, some y => before x y
    | _, _ => false
  if xs.size < 64 then median less 0 (4 * eighth) (7 * eighth)
  else spreadMedian less 0 (4 * eighth) (7 * eighth) eighth

def splitAt (goesLeft : α → Bool) (position : Nat) (along : Bool) (xs : List α) :
    List α × List α :=
  let (left, right) := xs.zipIdx.partition fun (x, i) => if i = position then along else goesLeft x
  (left.map (·.1), right.map (·.1))

def sortByPartition? (before : α → α → Bool) : Nat → Option α → List α → Option (List α)
  | 0, _, xs => if xs.length ≤ shortLength then sortShort? before xs else sortByRuns? before xs
  | rounds + 1, least, xs =>
    if xs.length ≤ shortLength then sortShort? before xs
    else
      let position := pivotPosition before xs.toArray
      match xs[position]? with
      | none => none
      | some pivot =>
        let (left, right) :=
          if least.any fun a => !before a pivot then ([], xs)
          else splitAt (fun x => before x pivot) position false xs
        if left.isEmpty then do
          let (equal, right) := splitAt (fun x => !before pivot x) position true xs
          return equal ++ (← sortByPartition? before rounds none right)
        else do
          let right ← sortByPartition? before rounds (some pivot) right
          return (← sortByPartition? before rounds least left) ++ right

end Navigation.Ranking
