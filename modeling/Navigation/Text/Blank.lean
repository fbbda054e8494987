/-! The characters of the Unicode property `White_Space`. -/

namespace Navigation.Text

def isWhite (c : Char) : Bool :=
  '\t' ≤ c && c ≤ '\r' || c = ' ' || c = '\u0085' || c = '\u00a0' || c = '\u1680' ||
    '\u2000' ≤ c && c ≤ '\u200a' || c = '\u2028' || c = '\u2029' || c = '\u202f' ||
    c = '\u205f' || c = '\u3000'

theorem isWhite_of_isWhitespace {c : Char} (h : c.isWhitespace = true) : isWhite c = true := by
  simp only [Char.isWhitespace, Bool.or_eq_true, decide_eq_true_eq] at h
  rcases h with ((rfl | rfl) | rfl) | rfl <;> decide

def trimEnd (s : List Char) : List Char := (s.reverse.dropWhile isWhite).reverse

def trim (s : List Char) : List Char := trimEnd (s.dropWhile isWhite)

end Navigation.Text
