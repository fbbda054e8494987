import Mathlib
import Navigation.Priority
import Navigation.Proofs.Number.Order

namespace Navigation

namespace Number

open Float.Model UnpackedFloat

def summit : ℕ := 2047 * 2 ^ 52

def kind (a : ℕ) : ℤ := if a = 0 then 0 else if a < summit then 1 else 2

def scale (a : ℕ) : ℤ := if a = 0 ∨ summit ≤ a then 0 else max (a / 2 ^ 52 : ℕ) 1 - 1075

def digits (a : ℕ) : ℤ :=
  if a = 0 ∨ summit ≤ a then 0 else if a < 2 ^ 52 then a else 2 ^ 52 + (a % 2 ^ 52 : ℕ)

def levelAt (s : Sign) (a : ℕ) : ℤ ×ₗ ℤ ×ₗ ℤ :=
  toLex (s.apply (kind a), toLex (s.apply (scale a), s.apply (digits a)))

variable {s t : Sign} {a b : ℕ}

lemma kind_lt_or (hb : b ≤ summit) (h : a < b) :
    kind a < kind b ∨ kind a = kind b ∧ (scale a < scale b ∨ scale a = scale b ∧ digits a < digits b) := by
  have hsummit : summit = 2047 * 2 ^ 52 := rfl
  simp only [kind, scale, digits]
  omega

lemma levelAt_lt (ha : a ≤ summit) (hb : b ≤ summit) (h : s.apply a < t.apply b) :
    levelAt s a < levelAt t b := by
  have hpos (c : ℕ) : 0 ≤ kind c ∧ (0 < c → 0 < kind c) := by
    unfold kind
    omega
  have hposa := hpos a
  have hposb := hpos b
  simp only [levelAt, Prod.Lex.toLex_lt_toLex]
  cases s <;> cases t <;> simp only [Sign.apply] at h ⊢
  case negative.negative =>
    have := kind_lt_or ha (by omega : b < a)
    omega
  case negative.positive => omega
  case positive.negative => omega
  case positive.positive =>
    have := kind_lt_or hb (by omega : a < b)
    omega

lemma levelAt_congr (h : s.apply (a : ℤ) = t.apply b) : levelAt s a = levelAt t b := by
  cases s <;> cases t <;> simp only [Sign.apply] at h
  case negative.negative => rw [show a = b by omega]
  case negative.positive =>
    obtain ⟨rfl, rfl⟩ : a = 0 ∧ b = 0 := by omega
    rfl
  case positive.negative =>
    obtain ⟨rfl, rfl⟩ : a = 0 ∧ b = 0 := by omega
    rfl
  case positive.positive => rw [show a = b by omega]

lemma levelAt_lt_iff (ha : a ≤ summit) (hb : b ≤ summit) :
    levelAt s a < levelAt t b ↔ s.apply (a : ℤ) < t.apply b := by
  refine ⟨fun h => ?_, levelAt_lt ha hb⟩
  rcases lt_trichotomy (s.apply (a : ℤ)) (t.apply b) with hlt | heq | hgt
  · exact hlt
  · exact absurd h (levelAt_congr heq).not_lt
  · exact absurd h (levelAt_lt hb ha hgt).not_gt

def signOf (b : UInt64) : Sign := if b.toNat < 2 ^ 63 then .positive else .negative

def below (b : UInt64) : ℕ := b.toNat % 2 ^ 63

section Fields

variable (b : UInt64)

lemma toNat_unpackExponent : (@unpackExponent Format.binary64 b.toBitVec).toNat = below b / 2 ^ 52 := by
  change (BitVec.extractLsb' 52 11 b.toBitVec).toNat = _
  rw [BitVec.extractLsb'_toNat, Nat.shiftRight_eq_div_pow, UInt64.toNat_toBitVec, below]
  omega

lemma toNat_unpackMantissa : (@unpackMantissa Format.binary64 b.toBitVec).toNat = below b % 2 ^ 52 := by
  change (BitVec.extractLsb' 0 52 b.toBitVec).toNat = _
  rw [BitVec.extractLsb'_toNat, Nat.shiftRight_zero, UInt64.toNat_toBitVec, below]
  omega

lemma ofBitVec_unpackSign : Sign.ofBitVec (@unpackSign Format.binary64 b.toBitVec) = signOf b := by
  have hb := b.toNat_lt
  have hsign : (@unpackSign Format.binary64 b.toBitVec).toNat = b.toNat / 2 ^ 63 := by
    change (BitVec.extractLsb' 63 1 b.toBitVec).toNat = _
    rw [BitVec.extractLsb'_toNat, Nat.shiftRight_eq_div_pow, UInt64.toNat_toBitVec]
    omega
  rw [Sign.ofBitVec, signOf]
  refine if_congr ?_ rfl rfl
  rw [BitVec.toNat_eq, hsign]
  change _ = 0 ↔ _
  omega

lemma unpackExponent_eq_ones :
    @unpackExponent Format.binary64 b.toBitVec = -1#11 ↔ below b / 2 ^ 52 = 2047 := by
  rw [BitVec.toNat_eq, toNat_unpackExponent]
  rfl

lemma unpackExponent_eq_zero :
    @unpackExponent Format.binary64 b.toBitVec = 0#11 ↔ below b / 2 ^ 52 = 0 := by
  rw [BitVec.toNat_eq, toNat_unpackExponent]
  rfl

lemma unpackMantissa_eq_zero :
    @unpackMantissa Format.binary64 b.toBitVec = 0#52 ↔ below b % 2 ^ 52 = 0 := by
  rw [BitVec.toNat_eq, toNat_unpackMantissa]
  rfl

lemma toNat_implied_unpackMantissa :
    (1#1 ++ @unpackMantissa Format.binary64 b.toBitVec).toNat = 2 ^ 52 + below b % 2 ^ 52 := by
  rw [← Whole.toNat_implied (Nat.mod_lt _ (Nat.two_pow_pos 52)), ← toNat_unpackMantissa, BitVec.ofNat_toNat]
  rfl

end Fields

lemma levelAt_zero (s : Sign) : levelAt s 0 = level (.zero s) := by cases s <;> rfl

lemma levelAt_summit (s : Sign) : levelAt s summit = level (.infinity s) := by
  cases s <;> rfl

lemma levelAt_finite {m : ℕ} {e : ℤ} (hm : 0 < m) (ha : 0 < a) (hlt : a < summit) (he : scale a = e)
    (hd : digits a = m) : levelAt s a = level (.finite s m e hm) := by
  have hkind : kind a = 1 := by
    unfold kind
    omega
  rw [levelAt, hkind, he, hd, level]

lemma level_unpack {b : UInt64} (h : below b ≤ summit) :
    level (UnpackedFloat.unpack Format.binary64 b.toBitVec) = levelAt (signOf b) (below b) := by
  have hsummit : summit = 2047 * 2 ^ 52 := rfl
  have hbias : (Format.binary64.exponentBias : ℤ) + Format.binary64.mantissaBitsWithoutImplicit = 1075 := rfl
  simp only [UnpackedFloat.unpack, ofBitVec_unpackSign]
  -- the exponent is full, empty or neither, and only an empty one is that of zero
  split
  case isTrue he =>
    have hfull := (unpackExponent_eq_ones b).mp he
    have hb : below b = summit := by omega
    rw [if_pos ((unpackMantissa_eq_zero b).mpr (by omega)), hb, levelAt_summit]
  case isFalse he =>
    have hfull := (unpackExponent_eq_ones b).not.mp he
    split
    case isTrue he =>
      have hempty := (unpackExponent_eq_zero b).mp he
      split
      case isTrue hm =>
        have hb : below b = 0 := by
          have := (unpackMantissa_eq_zero b).mp hm
          omega
        rw [hb, levelAt_zero]
      case isFalse hm =>
        have hsome := (unpackMantissa_eq_zero b).not.mp hm
        refine (levelAt_finite _ (by omega) (by omega) ?_ ?_).symm
        · rw [toNat_unpackExponent, hbias]
          unfold scale
          omega
        · rw [toNat_unpackMantissa]
          unfold digits
          omega
    case isFalse he =>
      have hsome := (unpackExponent_eq_zero b).not.mp he
      refine (levelAt_finite _ (by omega) (by omega) ?_ ?_).symm
      · rw [toNat_unpackExponent, hbias]
        unfold scale
        omega
      · rw [toNat_implied_unpackMantissa]
        unfold digits
        omega

lemma unpack_ofBits {b : UInt64} (h : (Float.ofBits b).isNaN = false) :
    below b ≤ summit ∧
      (Float.ofBits b).toModel.unpack = UnpackedFloat.unpack Format.binary64 b.toBitVec := by
  have hsummit : summit = 2047 * 2 ^ 52 := rfl
  have hbits : (Float.ofBits b).toModel.toBits.toBitVec =
      if @isNaNBits Format.binary64 b.toBitVec then packedNaN Format.binary64 else b.toBitVec :=
    @pack_unpack Format.binary64 b.toBitVec (by decide)
  have hunpack : (Float.ofBits b).toModel.unpack =
    UnpackedFloat.unpack Format.binary64 (Float.ofBits b).toModel.toBits.toBitVec := rfl
  -- packing again changes only what stands for no number
  split at hbits
  case isTrue =>
    have hnan : (Float.ofBits b).isNaN = true := by
      change (Float.ofBits b).toModel.unpack.isNaN = true
      rw [hunpack, hbits, unpack_packedNaN]
      rfl
    rw [hnan] at h
    cases h
  case isFalse hb =>
    refine ⟨?_, by rw [hunpack, hbits]⟩
    rw [isNaNBits, decide_eq_true_eq] at hb
    have hb' := not_and_not_right.mp hb
    rw [unpackExponent_eq_ones, unpackMantissa_eq_zero] at hb'
    have hlt : below b < 2 ^ 63 := Nat.mod_lt _ (Nat.two_pow_pos 63)
    omega

end Number

namespace Priority

variable {p q : Priority}

def Numeric (p : Priority) : Prop := p.toFloat.isNaN = false ∧ p.bits ≠ 0x8000000000000000

lemma rank_lt_iff (hp : p.Numeric) (hq : q.Numeric) : p.rank < q.rank ↔
    (Number.signOf p.bits).apply (Number.below p.bits : ℤ) <
      (Number.signOf q.bits).apply (Number.below q.bits : ℤ) := by
  have hp' : p.bits.toNat ≠ 2 ^ 63 := fun h => hp.2 (UInt64.toNat_inj.mp h)
  have hq' : q.bits.toNat ≠ 2 ^ 63 := fun h => hq.2 (UInt64.toNat_inj.mp h)
  have hplt := p.bits.toNat_lt
  have hqlt := q.bits.toNat_lt
  have hhalf : Word.half = 2 ^ 63 := rfl
  have hgreatest : Word.greatest = 2 ^ 64 - 1 := rfl
  simp only [rank, Number.signOf, Number.below, hhalf, hgreatest]
  split_ifs <;> simp only [Float.Model.UnpackedFloat.Sign.apply] <;> omega

lemma toFloat_lt_iff (hp : p.Numeric) (hq : q.Numeric) : p.toFloat < q.toFloat ↔ p.rank < q.rank := by
  obtain ⟨hple, hpu⟩ := Number.unpack_ofBits hp.1
  obtain ⟨hqle, hqu⟩ := Number.unpack_ofBits hq.1
  rw [Number.lt_iff, and_iff_right hp.1, and_iff_right hq.1, rank_lt_iff hp hq, toFloat, toFloat, hpu, hqu,
    Number.level_unpack hple, Number.level_unpack hqle, Number.levelAt_lt_iff hple hqle]

lemma toFloat_beq_iff (hp : p.Numeric) (hq : q.Numeric) :
    (p.toFloat == q.toFloat) = true ↔ p.rank = q.rank := by
  have hlt := toFloat_lt_iff hp hq
  have hgt := toFloat_lt_iff hq hp
  rw [Number.lt_iff, and_iff_right hp.1, and_iff_right hq.1] at hlt
  rw [Number.lt_iff, and_iff_right hq.1, and_iff_right hp.1] at hgt
  rw [Number.beq_iff, and_iff_right hp.1, and_iff_right hq.1, eq_iff_le_not_lt, eq_iff_le_not_lt,
    ← not_lt, ← not_lt, hlt, hgt]

lemma compare_numeric (hp : p.Numeric) (hq : q.Numeric) :
    compare p q = compareOfLessAndBEq p.toFloat q.toFloat := by
  change compare p.rank q.rank = _
  rw [LinearOrder.compare_eq_compareOfLessAndEq, compareOfLessAndEq, compareOfLessAndBEq]
  simp only [toFloat_lt_iff hp hq, toFloat_beq_iff hp hq]

def folded (p : Priority) : Int64 :=
  let word := p.bits.toInt64
  word ^^^ ((word >>> 63).toUInt64 >>> 1).toInt64

lemma toNat_mask (b : UInt64) :
    ((b.toInt64 >>> 63).toUInt64 >>> 1).toNat = if b.toNat < 2 ^ 63 then 0 else 2 ^ 63 - 1 := by
  have hb := b.toNat_lt
  have hspread : (b.toInt64 >>> 63).toUInt64.toNat = (b.toBitVec.sshiftRight 63).toNat := rfl
  have hone : (1 : UInt64).toNat % 64 = 1 := rfl
  rw [UInt64.toNat_shiftRight, hspread, hone, BitVec.toNat_sshiftRight, BitVec.msb_eq_decide,
    UInt64.toNat_toBitVec, Nat.shiftRight_eq_div_pow, Nat.shiftRight_eq_div_pow, Nat.shiftRight_eq_div_pow]
  by_cases h : b.toNat < 2 ^ 63
  · rw [if_neg (by simpa using h), if_pos h]
    omega
  · rw [if_pos (by simpa using h), if_neg h]
    omega

lemma xor_mask {n : ℕ} (h : 2 ^ 63 ≤ n) (h' : n < 2 ^ 64) :
    n ^^^ (2 ^ 63 - 1) = 2 ^ 63 + (2 ^ 64 - 1 - n) := by
  have hdiv : (n ^^^ (2 ^ 63 - 1)) / 2 ^ 63 = 1 := by
    rw [Nat.xor_div_two_pow]
    have hn : n / 2 ^ 63 = 1 := by omega
    rw [hn]
    rfl
  have hmod : (n ^^^ (2 ^ 63 - 1)) % 2 ^ 63 = 2 ^ 63 - 1 - n % 2 ^ 63 := by
    have hnot := BitVec.toNat_not (x := BitVec.ofNat 63 n)
    rw [← BitVec.xor_allOnes, BitVec.toNat_xor, BitVec.toNat_allOnes, BitVec.toNat_ofNat] at hnot
    rw [Nat.xor_mod_two_pow]
    exact hnot
  omega

lemma toInt_folded (p : Priority) : p.folded.toInt = p.rank - 2 ^ 63 := by
  have hp := p.bits.toNat_lt
  have hhalf : Word.half = 2 ^ 63 := rfl
  have hgreatest : Word.greatest = 2 ^ 64 - 1 := rfl
  have hfolded : p.folded.toBitVec.toNat =
      p.bits.toNat ^^^ ((p.bits.toInt64 >>> 63).toUInt64 >>> 1).toNat := rfl
  rw [← Int64.toInt_toBitVec, BitVec.toInt_eq_toNat_cond, hfolded, toNat_mask, rank, hhalf, hgreatest]
  by_cases h : p.bits.toNat < 2 ^ 63
  · rw [if_pos h, if_pos h, Nat.xor_zero]
    omega
  · rw [if_neg h, if_neg h, xor_mask (by omega) hp]
    omega

lemma compare_folded (p q : Priority) : compare p q = compare p.folded q.folded := by
  have hlt : p.folded < q.folded ↔ p.rank < q.rank := by
    rw [Int64.lt_iff_toInt_lt, toInt_folded, toInt_folded]
    omega
  have heq : p.folded = q.folded ↔ p.rank = q.rank := by
    rw [← Int64.toInt_inj, toInt_folded, toInt_folded]
    omega
  change compare p.rank q.rank = compareOfLessAndEq p.folded q.folded
  rw [LinearOrder.compare_eq_compareOfLessAndEq, compareOfLessAndEq, compareOfLessAndEq]
  simp only [hlt, heq]

end Priority

end Navigation
