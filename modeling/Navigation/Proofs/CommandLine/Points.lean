import Mathlib
import Navigation.CommandLine.Value
import Navigation.Proofs.Decimal.Digits

/-! The grammar of points on the command line. -/

namespace Navigation

namespace Text

variable {s t u v : List Char}

structure Trimmed (s t : List Char) : Prop where
  around : ∃ u v, s = u ++ t ++ v ∧ (∀ c ∈ u, isWhite c = true) ∧ ∀ c ∈ v, isWhite c = true
  head : ∀ c ∈ t.head?, isWhite c = false
  last : ∀ c ∈ t.getLast?, isWhite c = false

lemma trimStart_append (hu : ∀ c ∈ u, isWhite c = true) (ht : ∀ c ∈ t.head?, isWhite c = false) :
    (u ++ t).dropWhile isWhite = t := by
  rw [List.dropWhile_append_of_pos hu]
  cases t with
  | nil => rfl
  | cons c t => exact List.dropWhile_cons_of_neg (Bool.eq_false_iff.mp (ht c rfl))

lemma trimEnd_append (hv : ∀ c ∈ v, isWhite c = true) (ht : ∀ c ∈ t.getLast?, isWhite c = false) :
    trimEnd (t ++ v) = t := by
  rw [← List.head?_reverse] at ht
  rw [trimEnd, List.reverse_append, trimStart_append (fun c hc => hv c (List.mem_reverse.mp hc)) ht,
    List.reverse_reverse]

lemma Trimmed.trim_eq (h : Trimmed s t) : trim s = t := by
  obtain ⟨⟨u, v, rfl, hu, hv⟩, hhead, hlast⟩ := h
  cases t with
  | nil =>
    have hwhite : ∀ c ∈ u ++ [] ++ v, isWhite c = true := by
      rw [List.append_nil, List.forall_mem_append]
      exact ⟨hu, hv⟩
    rw [trim, List.dropWhile_eq_nil_iff.mpr hwhite]
    rfl
  | cons c t =>
    have hstart : (u ++ (c :: t ++ v)).dropWhile isWhite = c :: t ++ v := trimStart_append hu hhead
    rw [trim, List.append_assoc, hstart, trimEnd_append hv hlast]

lemma trimmed_trim (s : List Char) : Trimmed s (trim s) := by
  have htrim : trim s = (s.dropWhile isWhite).rdropWhile isWhite := rfl
  refine ⟨⟨s.takeWhile isWhite, (s.dropWhile isWhite).rtakeWhile isWhite, ?_, fun _ => List.mem_takeWhile_imp,
    fun _ => List.mem_rtakeWhile_imp⟩, fun c hc => ?_, fun c hc => ?_⟩
  · rw [htrim, List.append_assoc, List.rdropWhile_append_rtakeWhile, List.takeWhile_append_dropWhile]
  · obtain ⟨v, hv⟩ := List.rdropWhile_prefix isWhite (s.dropWhile isWhite)
    have hstart := List.head?_dropWhile_not isWhite s
    rw [← hv, ← htrim, List.head?_append, hc] at hstart
    exact hstart
  · obtain ⟨hne, rfl⟩ := List.mem_getLast?_eq_getLast hc
    exact Bool.eq_false_iff.mpr (List.rdropWhile_last_not isWhite (s.dropWhile isWhite) hne)

lemma isWhite_of_isDigit {c : Char} (h : c.isDigit = true) : isWhite c = false := by
  obtain ⟨hlow, hhigh⟩ := Char.isDigit_iff_toNat.mp h
  change 48 ≤ c.toNat at hlow
  change c.toNat ≤ 57 at hhigh
  rw [← Char.ofNat_toNat c]
  generalize c.toNat = k at hlow hhigh ⊢
  interval_cases k <;> decide

lemma trimmed_digits (hu : ∀ c ∈ u, isWhite c = true) (hv : ∀ c ∈ v, isWhite c = true)
    (hd : ∀ c ∈ t, c.isDigit = true) : Trimmed (u ++ t ++ v) t :=
  ⟨⟨u, v, rfl, hu, hv⟩, fun c hc => isWhite_of_isDigit (hd c (List.mem_of_mem_head? hc)),
    fun c hc => isWhite_of_isDigit (hd c (List.mem_of_mem_getLast? hc))⟩

end Text

namespace CommandLine

open Text

variable {s t u x y ds : List Char} {k n m : ℕ}

section Splitting

lemma splitComma?_append (h : ',' ∉ x) : splitComma? (x ++ ',' :: y) = some (x, y) := by
  induction x with
  | nil => exact if_pos rfl
  | cons c x ih =>
    obtain ⟨hc, hx⟩ := not_or.mp (List.mem_cons.not.mp h)
    rw [List.cons_append, splitComma?, if_neg (Ne.symm hc), ih hx]
    rfl

lemma splitComma?_eq_none (h : ',' ∉ s) : splitComma? s = none := by
  induction s with
  | nil => rfl
  | cons c s ih =>
    obtain ⟨hc, hs⟩ := not_or.mp (List.mem_cons.not.mp h)
    rw [splitComma?, if_neg (Ne.symm hc), ih hs]
    rfl

end Splitting

section Sizes

structure Spells (ds : List Char) (n : ℕ) : Prop where
  nonempty : ds ≠ []
  digits : ∀ c ∈ ds, c.isDigit = true
  value : Nat.ofDigitChars 10 ds 0 = n
  fits : n < 2 ^ 64

inductive Numeral (n : ℕ) : List Char → Prop where
  | bare {ds : List Char} (h : Spells ds n) : Numeral n ds
  | plus {ds : List Char} (h : Spells ds n) : Numeral n ('+' :: ds)

lemma le_ofDigitChars (k : ℕ) (ds : List Char) : k ≤ Nat.ofDigitChars 10 ds k := by
  induction ds generalizing k with
  | nil => exact le_rfl
  | cons c ds ih =>
    rw [Nat.ofDigitChars_cons]
    exact le_trans (by omega) (ih _)

lemma readDigits_eq_ok_iff (hk : k < Word.bound) : readDigits k ds = .ok n ↔
    (∀ c ∈ ds, c.isDigit = true) ∧ Nat.ofDigitChars 10 ds k = n ∧ n < Word.bound := by
  -- digits read so far only grow, so that a number beyond the word stays beyond it
  induction ds generalizing k with
  | nil =>
    constructor
    · rintro ⟨⟩
      exact ⟨fun c hc => absurd hc List.not_mem_nil, rfl, hk⟩
    · rintro ⟨-, rfl, -⟩
      rfl
  | cons c ds ih =>
    rw [List.forall_mem_cons, Nat.ofDigitChars_cons, readDigits]
    split
    · rename_i hc
      rw [and_iff_right hc]
      dsimp only
      split
      · rename_i hfits
        exact ih hfits
      · rename_i hlarge
        refine iff_of_false nofun fun ⟨_, hvalue, hfits⟩ => hlarge ?_
        rw [← hvalue] at hfits
        exact (le_ofDigitChars _ ds).trans_lt hfits
    · rename_i hc
      exact iff_of_false nofun fun h => hc h.1.1

lemma readDigits_zero_eq_ok_iff (hne : ds ≠ []) : readDigits 0 ds = .ok n ↔ Spells ds n := by
  rw [readDigits_eq_ok_iff (by decide)]
  exact ⟨fun h => ⟨hne, h.1, h.2.1, h.2.2⟩, fun h => ⟨h.digits, h.value, h.fits⟩⟩

lemma not_spells_plus : ¬Spells ('+' :: ds) n := fun h => by
  have hplus := h.digits '+' List.mem_cons_self
  cases hplus

lemma numeral_iff (hne : ds ≠ []) (hplus : ∀ t, ds ≠ '+' :: t) : Numeral n ds ↔ Spells ds n := by
  refine ⟨fun h => ?_, .bare⟩
  cases h with
  | bare h => exact h
  | plus h => exact absurd rfl (hplus _)

lemma numeral_plus_iff : Numeral n ('+' :: ds) ↔ Spells ds n := by
  refine ⟨fun h => ?_, .plus⟩
  cases h with
  | bare h => exact absurd h not_spells_plus
  | plus h => exact h

lemma readSize_eq_ok_iff : readSize t = .ok n ↔ Numeral n t := by
  unfold readSize
  split
  · refine iff_of_false nofun fun h => ?_
    cases h with
    | bare h => exact h.nonempty rfl
  · rw [numeral_plus_iff]
    exact iff_of_false nofun fun h => h.nonempty rfl
  · rename_i ds hne
    rw [numeral_plus_iff]
    exact readDigits_zero_eq_ok_iff fun hnil => hne (hnil ▸ rfl)
  · rename_i hne _ hplus
    rw [numeral_iff hne hplus]
    exact readDigits_zero_eq_ok_iff hne

end Sizes

section Points

def Parts (s t u : List Char) : Prop :=
  ∃ x y, s = x ++ ',' :: y ∧ ',' ∉ x ∧ Trimmed x t ∧ Trimmed y u

def coordinate (t : List Char) : Except PointError ℕ := (readSize t).mapError fun _ => .coordinate t

lemma readCoordinate_eq (s : List Char) : readCoordinate s = coordinate (trim s) := by
  rw [readCoordinate, coordinate]
  cases readSize (trim s) <;> rfl

lemma coordinate_eq_ok_iff : coordinate t = .ok n ↔ Numeral n t := by
  rw [← readSize_eq_ok_iff, coordinate]
  cases readSize t with
  | ok k => exact ⟨fun h => congrArg _ (Except.ok.inj h), fun h => congrArg _ (Except.ok.inj h)⟩
  | error e => exact iff_of_false nofun nofun

lemma coordinate_eq_error_iff {e : PointError} :
    coordinate t = .error e ↔ (∀ n, ¬Numeral n t) ∧ e = .coordinate t := by
  cases hread : readSize t with
  | ok n =>
    rw [coordinate, hread]
    exact iff_of_false nofun fun h => h.1 n (readSize_eq_ok_iff.mp hread)
  | error cause =>
    have hnone : ∀ n, ¬Numeral n t := fun n hn => by
      rw [readSize_eq_ok_iff.mpr hn] at hread
      cases hread
    rw [coordinate, hread, and_iff_right hnone]
    exact ⟨fun h => (Except.error.inj h).symm, fun h => congrArg _ h.symm⟩

lemma exists_parts (h : ',' ∈ s) : ∃ t u, Parts s t u := by
  obtain ⟨x, y, rfl, hx⟩ := List.eq_append_cons_of_mem h
  exact ⟨trim x, trim y, x, y, rfl, hx, trimmed_trim x, trimmed_trim y⟩

lemma Parts.mem_comma (h : Parts s t u) : ',' ∈ s := by
  obtain ⟨x, y, rfl, -⟩ := h
  exact List.mem_append_right x List.mem_cons_self

lemma Parts.unique {t' u' : List Char} (h : Parts s t u) (h' : Parts s t' u') : t' = t ∧ u' = u := by
  obtain ⟨x, y, rfl, hx, ht, hu⟩ := h
  obtain ⟨x', y', heq, hx', ht', hu'⟩ := h'
  have hsplit := congrArg splitComma? heq
  rw [splitComma?_append hx, splitComma?_append hx'] at hsplit
  obtain ⟨rfl, rfl⟩ := Prod.mk.inj (Option.some.inj hsplit)
  rw [← ht.trim_eq, ← hu.trim_eq]
  exact ⟨ht'.trim_eq.symm, hu'.trim_eq.symm⟩

lemma Parts.exists_iff {P : List Char → List Char → Prop} (h : Parts s t u) :
    (∃ t u, Parts s t u ∧ P t u) ↔ P t u := by
  refine ⟨fun ⟨t', u', h', hP⟩ => ?_, fun hP => ⟨t, u, h, hP⟩⟩
  obtain ⟨rfl, rfl⟩ := h.unique h'
  exact hP

section

variable {a b : Except PointError ℕ} {e : PointError} {p : Point}

lemma pair_eq_ok_iff : (do return ⟨← a, ← b⟩ : Except PointError Point) = .ok p ↔ a = .ok p.x ∧ b = .ok p.y := by
  cases a with
  | error e => exact iff_of_false nofun fun h => nomatch h.1
  | ok n =>
    cases b with
    | error e => exact iff_of_false nofun fun h => nomatch h.2
    | ok m =>
      constructor
      · rintro ⟨⟩
        exact ⟨rfl, rfl⟩
      · rintro ⟨⟨⟩, ⟨⟩⟩
        rfl

lemma pair_eq_error_iff : (do return ⟨← a, ← b⟩ : Except PointError Point) = .error e ↔
    a = .error e ∨ (∃ n, a = .ok n) ∧ b = .error e := by
  cases a with
  | error e' =>
    -- the second is not looked at
    constructor
    · rintro ⟨⟩
      exact .inl rfl
    · rintro (⟨⟨⟩⟩ | ⟨⟨n, ⟨⟩⟩, -⟩)
      rfl
  | ok n =>
    cases b with
    | error e' =>
      constructor
      · rintro ⟨⟩
        exact .inr ⟨⟨n, rfl⟩, rfl⟩
      · rintro (⟨⟨⟩⟩ | ⟨-, ⟨⟩⟩)
        rfl
    | ok m => exact iff_of_false nofun fun h => h.elim nofun fun h => nomatch h.2

end

lemma readPoint_of_parts (h : Parts s t u) : readPoint s = do return ⟨← coordinate t, ← coordinate u⟩ := by
  obtain ⟨x, y, rfl, hx, ht, hu⟩ := h
  rw [readPoint, splitComma?_append hx, ← ht.trim_eq, ← hu.trim_eq, ← readCoordinate_eq, ← readCoordinate_eq]

lemma readPoint_of_not_mem (h : ',' ∉ s) : readPoint s = .error (.format s) := by
  rw [readPoint, splitComma?_eq_none h]

lemma readPoint_eq_ok_iff {p : Point} :
    readPoint s = .ok p ↔ ∃ t u, Parts s t u ∧ Numeral p.x t ∧ Numeral p.y u := by
  by_cases hs : ',' ∈ s
  · obtain ⟨t, u, h⟩ := exists_parts hs
    rw [h.exists_iff, ← coordinate_eq_ok_iff, ← coordinate_eq_ok_iff, readPoint_of_parts h]
    exact pair_eq_ok_iff
  · rw [readPoint_of_not_mem hs]
    exact iff_of_false nofun fun ⟨t, u, h, _⟩ => hs h.mem_comma

lemma readPoint_eq_error_iff {e : PointError} (h : Parts s t u) : readPoint s = .error e ↔
    (∀ n, ¬Numeral n t) ∧ e = .coordinate t ∨ (∃ n, Numeral n t) ∧ (∀ m, ¬Numeral m u) ∧ e = .coordinate u := by
  rw [readPoint_of_parts h, ← coordinate_eq_error_iff, ← coordinate_eq_error_iff]
  simp only [← coordinate_eq_ok_iff]
  exact pair_eq_error_iff

lemma spells_toString (h : n < 2 ^ 64) : Spells (toString n).toList n := by
  rw [Nat.toString_eq_repr, Nat.toList_repr]
  exact ⟨Nat.toDigits_ne_nil, fun c => Decimal.isDigit_toDigits, Nat.ofDigitChars_ten_toDigits, h⟩

lemma comma_not_mem_digits {v : List Char} (hu : ∀ c ∈ u, isWhite c = true) (hv : ∀ c ∈ v, isWhite c = true)
    (hd : ∀ c ∈ ds, c.isDigit = true) : ',' ∉ u ++ ds ++ v := by
  simp only [List.mem_append, not_or]
  exact ⟨⟨fun h => absurd (hu _ h) (by decide), fun h => absurd (hd _ h) (by decide)⟩,
    fun h => absurd (hv _ h) (by decide)⟩

/-- A point is read from exactly the texts of two numerals with a comma between them. A text without a comma is
reported whole, and otherwise the first part that is no numeral, without the white characters around it. So two numbers
that are written in decimal among any white characters are read back. -/
theorem readPoint_grammar :
    (∀ s : List Char,
      (∀ p, readPoint s = .ok p ↔ ∃ t u, Parts s t u ∧ Numeral p.x t ∧ Numeral p.y u) ∧
      (∀ e, readPoint s = .error (.format e) ↔ ',' ∉ s ∧ e = s) ∧
      ∀ e, readPoint s = .error (.coordinate e) ↔ ∃ t u, Parts s t u ∧
        ((∀ n, ¬Numeral n t) ∧ e = t ∨ (∃ n, Numeral n t) ∧ (∀ m, ¬Numeral m u) ∧ e = u)) ∧
    ∀ (n m : ℕ) (u v w z : List Char), n < 2 ^ 64 → m < 2 ^ 64 → (∀ c ∈ u ++ v ++ w ++ z, isWhite c = true) →
      readPoint (u ++ (toString n).toList ++ v ++ ',' :: (w ++ (toString m).toList ++ z)) = .ok ⟨n, m⟩ := by
  refine ⟨fun s => ⟨fun p => readPoint_eq_ok_iff, fun e => ?_, fun e => ?_⟩, fun n m u v w z hn hm hwhite => ?_⟩
  · by_cases hs : ',' ∈ s
    · obtain ⟨t, u, h⟩ := exists_parts hs
      rw [readPoint_eq_error_iff h]
      exact iff_of_false (by rintro (⟨-, ⟨⟩⟩ | ⟨-, -, ⟨⟩⟩)) fun h => h.1 hs
    · rw [readPoint_of_not_mem hs, and_iff_right hs]
      exact ⟨fun h => (PointError.format.inj (Except.error.inj h)).symm, fun h => h ▸ rfl⟩
  · by_cases hs : ',' ∈ s
    · obtain ⟨t, u, h⟩ := exists_parts hs
      rw [readPoint_eq_error_iff h, h.exists_iff]
      simp only [PointError.coordinate.injEq]
    · rw [readPoint_of_not_mem hs]
      exact iff_of_false nofun fun ⟨t, u, h, _⟩ => hs h.mem_comma
  · simp only [List.forall_mem_append] at hwhite
    obtain ⟨⟨⟨hu, hv⟩, hw⟩, hz⟩ := hwhite
    have hx := spells_toString hn
    have hy := spells_toString hm
    exact readPoint_eq_ok_iff.mpr ⟨_, _, ⟨_, _, rfl, comma_not_mem_digits hu hv hx.digits,
      trimmed_digits hu hv hx.digits, trimmed_digits hw hz hy.digits⟩, .bare hx, .bare hy⟩

theorem readPoint_greatest :
    readPoint " 7\u00a0,\t18446744073709551615 ".toList = .ok ⟨7, 2 ^ 64 - 1⟩ := by
  have htext : " 7\u00a0,\t18446744073709551615 ".toList =
      [' '] ++ (toString 7).toList ++ ['\u00a0'] ++ ',' :: (['\t'] ++ (toString (2 ^ 64 - 1)).toList ++ [' ']) := by
    decide +kernel
  rw [htext]
  exact readPoint_grammar.2 7 (2 ^ 64 - 1) [' '] ['\u00a0'] ['\t'] [' '] (by decide) (by decide)
    (List.all_eq_true.mp (by decide))

-- a second comma is left in the second part
example : readPoint "1, 2,3".toList = .error (.coordinate "2,3".toList) := by decide +kernel

end Points

end CommandLine

end Navigation
