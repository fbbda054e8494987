import Mathlib.Data.List.Nodup
import Navigation.Proofs.Decimal.Digits
import Navigation.Toml.Codec

/-! Documents of integers: lines of a bare key and a number, as they are written and as they are read. -/

namespace Navigation.Toml

open Decimal

variable {ds s : List Char} {c : Char} {k lo hi v n fuel depth : ℕ} {rest : List Char}

section Digits

lemma digitValue_of_isDigit (hc : c.isDigit = true) : digitValue c = c.toNat - '0'.toNat := by
  have hrange : c.val ≥ '0'.val ∧ c.val ≤ '9'.val := by
    simpa only [Char.isDigit, Bool.and_eq_true, decide_eq_true_eq] using hc
  rw [digitValue, Text.hexValue?, if_pos ⟨hrange.1, hrange.2⟩]
  rfl

lemma natural_toDigits (n : ℕ) : natural 10 (Nat.toDigits 10 n) = n := by
  have hfold : ∀ (ds : List Char) (k : ℕ), (∀ c ∈ ds, c.isDigit = true) →
      ds.foldl (fun n c => 10 * n + digitValue c) k = Nat.ofDigitChars 10 ds k := by
    intro ds
    induction ds with
    | nil => exact fun k _ => rfl
    | cons c ds ih =>
      intro k hd
      rw [List.foldl_cons, digitValue_of_isDigit (hd c List.mem_cons_self),
        ih _ fun d h => hd d (List.mem_cons_of_mem c h)]
      rfl
  rw [natural, hfold _ 0 fun _ hc => isDigit_toDigits hc]
  exact Nat.ofDigitChars_ten_toDigits

lemma moreDigits_append (hd : ∀ c ∈ ds, c.isDigit = true) :
    moreDigits Char.isDigit (ds ++ '\n' :: s) = (ds, '\n' :: s) := by
  induction ds with
  | nil => cases s <;> rfl
  | cons c ds ih =>
    rw [List.cons_append, moreDigits, if_pos (hd c List.mem_cons_self),
      ih fun d h => hd d (List.mem_cons_of_mem c h)]
    rintro d t rfl
    cases hd '_' List.mem_cons_self

lemma digitRun_append (hne : ds ≠ []) (hd : ∀ c ∈ ds, c.isDigit = true) :
    digitRun Char.isDigit (ds ++ '\n' :: s) = some (ds, '\n' :: s) := by
  obtain ⟨c, ds, rfl⟩ := List.exists_cons_of_ne_nil hne
  rw [List.cons_append, digitRun, if_pos (hd c List.mem_cons_self),
    moreDigits_append fun d h => hd d (List.mem_cons_of_mem c h)]

lemma decimalDigits_toDigits (n : ℕ) (s : List Char) :
    decimalDigits (Nat.toDigits 10 n ++ '\n' :: s) = some (Nat.toDigits 10 n, '\n' :: s) := by
  rcases Nat.eq_zero_or_pos n with rfl | hn
  · rfl
  · have hrun := digitRun_append (s := s) Nat.toDigits_ne_nil fun _ => isDigit_toDigits (n := n)
    unfold decimalDigits
    split
    · rename_i t heq
      obtain ⟨c, ds, hct, -⟩ := exists_toDigits_cons n
      rw [hct, List.cons_append] at heq
      have hhead : (Nat.toDigits 10 n).head? = some '0' := by
        rw [hct, (List.cons.inj heq).1]
        rfl
      exact absurd (eq_zero_of_head hhead) hn.ne'
    · exact hrun

end Digits

section Dates

lemma field_append (hd : ∀ c ∈ ds, c.isDigit = true)
    (h : field k lo hi (ds ++ '\n' :: s) = some (v, rest)) :
    ∃ es, (∀ c ∈ es, c.isDigit = true) ∧ rest = es ++ '\n' :: s := by
  unfold field at h
  dsimp only at h
  split at h
  · rename_i hfield
    obtain ⟨hlen, hall, -⟩ := hfield
    obtain ⟨-, rfl⟩ := Prod.mk.inj (Option.some.inj h)
    have hk : k ≤ ds.length := by
      by_contra hlt
      have hmem : '\n' ∈ (ds ++ '\n' :: s).take k := by
        rw [List.take_append, List.mem_append]
        refine Or.inr ?_
        obtain ⟨m, hm⟩ := Nat.exists_eq_add_of_lt (not_le.mp hlt)
        rw [show k - ds.length = m + 1 by omega]
        exact List.mem_cons_self
      have := List.all_eq_true.mp hall '\n' hmem
      cases this
    exact ⟨ds.drop k, fun c hc => hd c (List.mem_of_mem_drop hc), List.drop_append_of_le_length hk⟩
  · cases h

lemma mark_append (hd : ∀ c ∈ ds, c.isDigit = true) (hc : c.isDigit = false) (hne : c ≠ '\n') :
    mark c (ds ++ '\n' :: s) = none := by
  cases ds with
  | nil => exact if_neg hne.symm
  | cons d ds =>
    refine if_neg ?_
    rintro rfl
    rw [hd d List.mem_cons_self] at hc
    cases hc

lemma mark_of_field (hd : ∀ c ∈ ds, c.isDigit = true) (h : field k lo hi (ds ++ '\n' :: s) = some (v, rest))
    (hc : c.isDigit = false) (hne : c ≠ '\n') : mark c rest = none := by
  obtain ⟨es, he, rfl⟩ := field_append hd h
  exact mark_append he hc hne

lemma skipDate?_append (hd : ∀ c ∈ ds, c.isDigit = true) : skipDate? (ds ++ '\n' :: s) = none := by
  unfold skipDate?
  cases hyear : field 4 0 9999 (ds ++ '\n' :: s) with
  | none => rfl
  | some p =>
    change (mark '-' p.2 >>= _) = none
    rw [mark_of_field hd hyear (by decide) (by decide)]
    rfl

lemma skipTime?_append (hd : ∀ c ∈ ds, c.isDigit = true) : skipTime? (ds ++ '\n' :: s) = none := by
  unfold skipTime?
  cases hhour : field 2 0 23 (ds ++ '\n' :: s) with
  | none => rfl
  | some p =>
    change (mark ':' p.2 >>= _) = none
    rw [mark_of_field hd hhour (by decide) (by decide)]
    rfl

lemma dateTime_append (hd : ∀ c ∈ ds, c.isDigit = true) : dateTime (ds ++ '\n' :: s) = none := by
  have hskip : skipDateTime? (ds ++ '\n' :: s) = none := by
    rw [skipDateTime?, skipDate?_append hd]
    exact skipTime?_append hd
  rw [dateTime, hskip]
  rfl

end Dates

section Numbers

lemma toDigits_append_ne_cons (hc : c.isDigit = false) : Nat.toDigits 10 n ++ s ≠ c :: rest := by
  obtain ⟨d, ds, hdt, hd⟩ := exists_toDigits_cons n
  rw [hdt]
  intro heq
  rw [(List.cons.inj heq).1, hc] at hd
  cases hd

lemma sign_toDigits (n : ℕ) (s : List Char) :
    sign (Nat.toDigits 10 n ++ s) = (false, Nat.toDigits 10 n ++ s) := by
  unfold sign
  split
  · rename_i heq
    exact (toDigits_append_ne_cons rfl heq).elim
  · rename_i heq
    exact (toDigits_append_ne_cons rfl heq).elim
  · rfl

lemma float_toDigits (n : ℕ) (s : List Char) : float (Nat.toDigits 10 n ++ '\n' :: s) = none := by
  rw [float, sign_toDigits]
  dsimp only
  rw [decimalDigits_toDigits]
  rfl

lemma specialFloat_toDigits (n : ℕ) (s : List Char) :
    specialFloat (Nat.toDigits 10 n ++ '\n' :: s) = none := by
  rw [specialFloat, sign_toDigits]
  dsimp only
  split
  · rename_i heq
    exact (toDigits_append_ne_cons rfl heq).elim
  · rename_i heq
    exact (toDigits_append_ne_cons rfl heq).elim
  · rfl

lemma integerOf_natCast (hn : n < Word.half) : integerOf false n = some (.integer n) := by
  unfold integerOf
  generalize Word.half = bound at hn
  exact if_pos ⟨by omega, by omega⟩

lemma toDigits_append_ne (hc : c ≠ '\n') : Nat.toDigits 10 n ++ '\n' :: s ≠ '0' :: c :: rest := by
  intro heq
  obtain ⟨d, ds, hdt, -⟩ := exists_toDigits_cons n
  have hzero : n = 0 := by
    refine eq_zero_of_head ?_
    rw [hdt, List.cons_append] at heq
    rw [hdt, (List.cons.inj heq).1]
    rfl
  subst hzero
  exact hc (List.cons.inj (List.cons.inj heq).2).1.symm

lemma convert_toDigits {convert : Bool → ℕ → Option Value} {x : Value} (h : convert false n = some x)
    (s : List Char) :
    (do
      let (negative, s) := sign (Nat.toDigits 10 n ++ '\n' :: s)
      let (digits, s) ← decimalDigits s
      return (← convert negative (natural 10 digits), s) : Option (Value × List Char)) =
    some (x, '\n' :: s) := by
  -- the bounds of a signed word are behind `convert`, or they would be unfolded here
  simp only [sign_toDigits, decimalDigits_toDigits, natural_toDigits, h,
    Option.bind_eq_bind, Option.bind_some, Option.pure_def]

lemma integer_toDigits (hn : n < Word.half) (s : List Char) :
    integer (Nat.toDigits 10 n ++ '\n' :: s) = some (.integer n, '\n' :: s) := by
  unfold integer
  split
  · rename_i heq
    exact absurd heq (toDigits_append_ne (by decide))
  · rename_i heq
    exact absurd heq (toDigits_append_ne (by decide))
  · rename_i heq
    exact absurd heq (toDigits_append_ne (by decide))
  · exact convert_toDigits (integerOf_natCast hn) s

lemma number_toDigits (hn : n < Word.half) (s : List Char) :
    number (Nat.toDigits 10 n ++ '\n' :: s) = some (.integer n, '\n' :: s) := by
  rw [number, dateTime_append fun _ => isDigit_toDigits, float_toDigits, specialFloat_toDigits,
    integer_toDigits hn]
  rfl

lemma value_toDigits (hn : n < Word.half) (s : List Char) :
    value (fuel + 1) depth (Nat.toDigits 10 n ++ '\n' :: s) = some (.integer n, '\n' :: s) := by
  have hread := number_toDigits hn s
  obtain ⟨c, ds, hct, hc⟩ := exists_toDigits_cons n
  rw [hct] at hread ⊢
  unfold value
  split
  case h_8 => exact hread
  case h_1 => contradiction
  all_goals
    rename_i heq
    rw [(List.cons.inj heq).1] at hc
    cases hc

end Numbers

section Lines

structure Bare (key : Key) : Prop where
  nonempty : key ≠ []
  bare : ∀ c ∈ key, isBare c = true

variable {key : Key} {members : Members} {entries : List (Key × ℕ)}

lemma simpleKey_bare (h : Bare key) (hs : ∀ c ∈ s.head?, isBare c = false) :
    simpleKey (key ++ s) = some (key, s) := by
  have htake : (key ++ s).takeWhile isBare = key := by
    rw [List.takeWhile_append_of_pos h.bare]
    cases s with
    | nil => exact List.append_nil key
    | cons c s => rw [List.takeWhile_cons_of_neg (by rw [hs c rfl]; decide), List.append_nil]
  have hdrop : (key ++ s).dropWhile isBare = s := by
    rw [List.dropWhile_append_of_pos h.bare]
    cases s with
    | nil => rfl
    | cons c s => rw [List.dropWhile_cons_of_neg (by rw [hs c rfl]; decide)]
  obtain ⟨c, cs, rfl⟩ := List.exists_cons_of_ne_nil h.nonempty
  have hc : isBare c = true := h.bare c List.mem_cons_self
  unfold simpleKey
  split
  · rename_i heq
    rw [(List.cons.inj heq).1] at hc
    cases hc
  · rename_i heq
    rw [(List.cons.inj heq).1] at hc
    cases hc
  · rw [htake, hdrop]
    rfl

lemma skipBlanks_bare (h : Bare key) (s : List Char) : skipBlanks (key ++ s) = key ++ s := by
  obtain ⟨c, cs, rfl⟩ := List.exists_cons_of_ne_nil h.nonempty
  have hc : isBare c = true := h.bare c List.mem_cons_self
  have hblank : isBlank c = false := by
    by_contra hb
    rw [Bool.not_eq_false, isBlank, Bool.or_eq_true, decide_eq_true_eq, decide_eq_true_eq] at hb
    rcases hb with rfl | rfl <;> cases hc
  rw [skipBlanks, List.cons_append, List.dropWhile_cons_of_neg (by rw [hblank]; decide)]

lemma dottedKey_bare (h : Bare key) (s : List Char) :
    dottedKey (key ++ ' ' :: '=' :: s) = some (([], key), '=' :: s) := by
  have hsimple : simpleKey (key ++ ' ' :: '=' :: s) = some (key, ' ' :: '=' :: s) :=
    simpleKey_bare h fun c hc => by
      obtain rfl : ' ' = c := Option.some.inj hc
      decide
  rw [dottedKey, keyParts, skipBlanks_bare h, hsimple]
  rfl

lemma skipBlanks_toDigits (n : ℕ) (s : List Char) :
    skipBlanks (' ' :: (Nat.toDigits 10 n ++ s)) = Nat.toDigits 10 n ++ s := by
  have hbare : Bare (Nat.toDigits 10 n) :=
    ⟨Nat.toDigits_ne_nil, fun c hc => by
      rw [isBare, Char.isAlphanum, isDigit_toDigits hc]
      simp⟩
  exact skipBlanks_bare hbare s

lemma keyValue_line (h : Bare key) (hn : n < Word.half) (hnew : members.lookup key = none) (s : List Char) :
    Reading.keyValue ⟨members, []⟩ (entryLine (key, n) ++ s) = some (⟨members ++ [(key, .integer n)], []⟩, s) := by
  have htext : entryLine (key, n) ++ s = key ++ ' ' :: '=' :: ' ' :: (Nat.toDigits 10 n ++ '\n' :: s) := by
    rw [entryLine, List.append_assoc, List.cons_append, List.cons_append, List.cons_append, List.append_assoc]
    rfl
  have hmark (s : List Char) : mark '=' ('=' :: s) = some s := rfl
  have hinsert : Members.insert? [] key (.integer n) members = some (members ++ [(key, .integer n)]) := by
    rw [Members.insert?, hnew]
    rfl
  have hend : skipLineEnd? ('\n' :: s) = some s := rfl
  simp only [htext, Reading.keyValue, dottedKey_bare h, hmark, skipBlanks_toDigits, value_toDigits hn,
    Members.descend?, hinsert, hend, Option.bind_eq_bind, Option.bind_some, Option.pure_def]

lemma run_line (h : Bare key) (hn : n < Word.half) (hnew : members.lookup key = none) (s : List Char) :
    Reading.run (fuel + 1) ⟨members, []⟩ (entryLine (key, n) ++ s) =
      Reading.run fuel ⟨members ++ [(key, .integer n)], []⟩ s := by
  have hread := keyValue_line h hn hnew s
  obtain ⟨c, cs, rfl⟩ := List.exists_cons_of_ne_nil h.nonempty
  have hc : isBare c = true := h.bare c List.mem_cons_self
  have hskip : skipBlanks (entryLine (c :: cs, n) ++ s) = entryLine (c :: cs, n) ++ s := by
    rw [entryLine, List.append_assoc]
    exact skipBlanks_bare h _
  rw [Reading.run, hskip]
  split
  case h_7 =>
    rw [hread]
    rfl
  case h_1 => contradiction
  all_goals
    rename_i heq
    rw [(List.cons.inj heq).1] at hc
    cases hc

lemma run_lines (hbare : ∀ e ∈ entries, Bare e.1) (hsmall : ∀ e ∈ entries, e.2 < Word.half)
    (hnew : ∀ e ∈ entries, members.lookup e.1 = none) (hnodup : (entries.map Prod.fst).Nodup)
    (hfuel : entries.length < fuel) :
    Reading.run fuel ⟨members, []⟩ (entries.flatMap entryLine) =
      some ⟨members ++ entries.map fun e => (e.1, .integer e.2), []⟩ := by
  induction entries generalizing members fuel with
  | nil =>
    obtain ⟨fuel, rfl⟩ := Nat.exists_eq_succ_of_ne_zero (Nat.ne_of_gt hfuel)
    rw [List.map_nil, List.append_nil]
    rfl
  | cons e entries ih =>
    obtain ⟨fuel, rfl⟩ := Nat.exists_eq_succ_of_ne_zero (Nat.ne_of_gt (Nat.zero_lt_of_lt hfuel))
    rw [List.map_cons, List.nodup_cons] at hnodup
    have hnext : ∀ e' ∈ entries, (members ++ [(e.1, Value.integer e.2)]).lookup e'.1 = none := by
      intro e' he'
      have hne : e'.1 ≠ e.1 := fun heq => hnodup.1 (heq ▸ List.mem_map_of_mem he')
      rw [List.lookup_append, hnew e' (List.mem_cons_of_mem e he'), List.lookup_cons,
        beq_eq_false_iff_ne.mpr hne]
      rfl
    rw [List.flatMap_cons, run_line (hbare e List.mem_cons_self) (hsmall e List.mem_cons_self)
      (hnew e List.mem_cons_self), ih (fun e' h => hbare e' (List.mem_cons_of_mem e h))
      (fun e' h => hsmall e' (List.mem_cons_of_mem e h)) hnext hnodup.2 (Nat.lt_of_succ_lt_succ hfuel),
      List.append_assoc, List.map_cons]
    rfl

lemma length_le_lines (entries : List (Key × ℕ)) : entries.length ≤ (entries.flatMap entryLine).length := by
  induction entries with
  | nil => exact le_rfl
  | cons e entries ih =>
    rw [List.flatMap_cons, List.length_append, List.length_cons, entryLine, List.length_append, List.length_cons]
    omega

lemma document?_lines (hbare : ∀ e ∈ entries, Bare e.1) (hsmall : ∀ e ∈ entries, e.2 < Word.half)
    (hnodup : (entries.map Prod.fst).Nodup) :
    document? (entries.flatMap entryLine) = some (entries.map fun e => (e.1, .integer e.2)) := by
  have hmark : (entries.flatMap entryLine).head? ≠ some byteOrderMark := by
    cases entries with
    | nil => nofun
    | cons e entries =>
      obtain ⟨c, cs, hcs⟩ := List.exists_cons_of_ne_nil (hbare e List.mem_cons_self).nonempty
      have hc : isBare c = true := (hbare e List.mem_cons_self).bare c (hcs ▸ List.mem_cons_self)
      rw [List.flatMap_cons, entryLine, hcs]
      intro heq
      rw [Option.some.inj heq] at hc
      cases hc
  rw [document?, if_neg hmark, run_lines hbare hsmall (fun _ _ => rfl) hnodup
    (Nat.lt_succ_of_le (length_le_lines entries))]
  rfl

end Lines

end Navigation.Toml
