import Mathlib.Data.List.Basic
import Mathlib.Tactic.IntervalCases

namespace Navigation.Decimal

variable {n : ℕ} {c : Char}

lemma isDigit_toDigits (hc : c ∈ Nat.toDigits 10 n) : c.isDigit = true :=
  Nat.isDigit_of_mem_toDigits (by decide) le_rfl hc

lemma exists_toDigits_cons (n : ℕ) : ∃ c ds, Nat.toDigits 10 n = c :: ds ∧ c.isDigit = true := by
  obtain ⟨c, ds, h⟩ := List.exists_cons_of_ne_nil (Nat.toDigits_ne_nil (b := 10) (n := n))
  exact ⟨c, ds, h, isDigit_toDigits (h ▸ List.mem_cons_self)⟩

lemma eq_zero_of_head (hn : (Nat.toDigits 10 n).head? = some '0') : n = 0 := by
  induction n using Nat.strong_induction_on with
  | _ n ih =>
    rw [Nat.toDigits_eq_if (by decide)] at hn
    split at hn
    · rename_i hlt
      interval_cases n <;> simp_all [Nat.digitChar]
    · rename_i hge
      rw [List.head?_append_of_ne_nil _ Nat.toDigits_ne_nil] at hn
      have := ih (n / 10) (by omega) hn
      omega

end Navigation.Decimal
