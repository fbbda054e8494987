/-! Texts by the bytes that their characters take. -/

namespace Navigation.Text

def byteLength : List Char → Nat
  | [] => 0
  | c :: s => c.utf8Size + byteLength s

def splitBytes : Nat → List Char → List Char × List Char
  | _, [] => ([], [])
  | n, c :: s =>
    if c.utf8Size ≤ n then
      let (front, rest) := splitBytes (n - c.utf8Size) s
      (c :: front, rest)
    else ([], c :: s)

theorem splitBytes_append (n : Nat) (s : List Char) :
    (splitBytes n s).1 ++ (splitBytes n s).2 = s := by
  induction s generalizing n with
  | nil => rfl
  | cons c s ih =>
    by_cases h : c.utf8Size ≤ n
    · simp [splitBytes, h, ih]
    · simp [splitBytes, h]

theorem byteLength_splitBytes_le (n : Nat) (s : List Char) :
    byteLength (splitBytes n s).1 ≤ n := by
  induction s generalizing n with
  | nil => exact Nat.zero_le n
  | cons c s ih =>
    by_cases h : c.utf8Size ≤ n
    · have := ih (n - c.utf8Size)
      simp only [splitBytes, h, if_true, byteLength]
      omega
    · simp [splitBytes, h, byteLength]

end Navigation.Text
