import Mathlib

namespace Navigation.Whole

open Float.Model Float.Model.UnpackedFloat

def mantissa (n : ℕ) : ℕ := n * 2 ^ (52 - n.log2)

def exponent (n : ℕ) : ℤ := (n.log2 : ℤ) - 52

lemma log2_le {n : ℕ} (h : n < 2 ^ 53) : n.log2 ≤ 52 := by
  by_cases hn : n = 0
  · simp [hn]
  · exact Nat.lt_succ_iff.mp ((Nat.log2_lt hn).mpr h)

lemma log2_scaled {n : ℕ} (hn : 0 < n) (k : ℕ) : (n * 2 ^ k).log2 = n.log2 + k := by
  have hp : n * 2 ^ k ≠ 0 := (Nat.mul_pos hn (Nat.two_pow_pos k)).ne'
  obtain ⟨hl, hu⟩ := (Nat.log2_eq_iff hn.ne').mp (Eq.refl n.log2)
  refine (Nat.log2_eq_iff hp).mpr ⟨?_, ?_⟩
  · rw [pow_add]
    exact Nat.mul_le_mul_right _ hl
  · rw [Nat.add_right_comm, pow_add]
    exact Nat.mul_lt_mul_of_pos_right hu (Nat.two_pow_pos k)

lemma log2_mantissa {n : ℕ} (hn : 0 < n) (h : n < 2 ^ 53) : (mantissa n).log2 = 52 := by
  have := log2_le h
  rw [mantissa, log2_scaled hn]
  omega

lemma mantissa_pos {n : ℕ} (hn : 0 < n) : 0 < mantissa n :=
  Nat.mul_pos hn (Nat.two_pow_pos _)

lemma mantissa_bounds {n : ℕ} (hn : 0 < n) (h : n < 2 ^ 53) :
    2 ^ 52 ≤ mantissa n ∧ mantissa n < 2 ^ 53 :=
  (Nat.log2_eq_iff (mantissa_pos hn).ne').mp (log2_mantissa hn h)

def unpacked (n : ℕ) : UnpackedFloat :=
  if h : n = 0 then .zero .positive
  else .finite .positive (mantissa n) (exponent n) (mantissa_pos (Nat.pos_of_ne_zero h))

lemma unpacked_of_pos {n : ℕ} (hn : 0 < n) :
    unpacked n = .finite .positive (mantissa n) (exponent n) (mantissa_pos hn) :=
  dif_neg hn.ne'

lemma targetExponent_eq (m : ℕ) (e : ℤ) :
    Format.binary64.targetExponent (totalExponent m e) = max ((m.log2 : ℤ) + e - 52) (-1074) := by
  simp only [Format.targetExponent, totalExponent, Format.mantissaBits, Format.minExponent]
  omega

lemma shift_scaled (m k : ℕ) :
    ExtendedMantissa.mk (m * 2 ^ k) false false >>> k = ExtendedMantissa.mk m false false := by
  induction k generalizing m with
  | zero => simp [HShiftRight.hShiftRight, Nat.repeat]
  | succ k ih =>
    have hm : m * 2 ^ (k + 1) = m * 2 * 2 ^ k := by ring
    change ExtendedMantissa.shiftRightOne (ExtendedMantissa.mk (m * 2 ^ (k + 1)) false false >>> k) = _
    rw [hm, ih]
    simp [ExtendedMantissa.shiftRightOne]

lemma shiftToTargetExponent_scaled (m k : ℕ) (e : ℤ)
    (h : Format.binary64.targetExponent (totalExponent (m * 2 ^ k) e) = e + k) :
    shiftToTargetExponent Format.binary64 (m * 2 ^ k) e .exact =
      (ExtendedMantissa.mk m false false, e + k) := by
  have hk : (e + k - e).toNat = k := by omega
  simp only [shiftToTargetExponent, shiftToExponent, h, hk,
    ExtendedMantissa.ofMantissaAndAccuracy, shift_scaled]

lemma roundWithAccuracy_scaled {n j : ℕ} (hn : 0 < n) (h : n < 2 ^ 53) (hj : 52 ≤ j + n.log2) :
    roundWithAccuracy Format.binary64 .positive (n * 2 ^ j) (-j) .exact = unpacked n := by
  have hl := log2_le h
  obtain ⟨k, rfl⟩ : ∃ k, j = (52 - n.log2) + k := ⟨j - (52 - n.log2), by omega⟩
  have hm : n * 2 ^ (52 - n.log2 + k) = mantissa n * 2 ^ k := by
    rw [mantissa, pow_add, mul_assoc]
  have he : -((52 - n.log2 + k : ℕ) : ℤ) = exponent n - k := by
    rw [exponent]
    omega
  have hfirst : shiftToTargetExponent Format.binary64 (mantissa n * 2 ^ k) (exponent n - k) .exact =
      (ExtendedMantissa.mk (mantissa n) false false, exponent n) := by
    rw [shiftToTargetExponent_scaled, sub_add_cancel]
    rw [targetExponent_eq, log2_scaled (mantissa_pos hn), log2_mantissa hn h, exponent]
    omega
  have hsecond : shiftToTargetExponent Format.binary64 (mantissa n) (exponent n) .exact =
      (ExtendedMantissa.mk (mantissa n) false false, exponent n) := by
    have hs := shiftToTargetExponent_scaled (mantissa n) 0 (exponent n) (by
      rw [targetExponent_eq, pow_zero, mul_one, log2_mantissa hn h, exponent]
      omega)
    simpa using hs
  rw [hm, he, roundWithAccuracy, hfirst]
  simp only [ExtendedMantissa.roundedMantissa, ExtendedMantissa.accuracy,
    Accuracy.roundToNearestEven, hsecond]
  rw [unpacked_of_pos hn, dif_neg (mantissa_pos hn).ne']

lemma round_scaled {n : ℕ} (hn : 0 < n) (h : n < 2 ^ 53) (k : ℕ) :
    UnpackedFloat.round Format.binary64 .positive (n * 2 ^ k) (-k) = unpacked n := by
  have hl := log2_le h
  have ht : Format.binary64.targetExponent (totalExponent (n * 2 ^ k) (-k)) = exponent n := by
    rw [targetExponent_eq, log2_scaled hn, exponent]
    omega
  let s := (-(k : ℤ) - exponent n).toNat
  have hm : (n * 2 ^ k) <<< s = n * 2 ^ (k + s) := by
    rw [Nat.shiftLeft_eq, pow_add, mul_assoc]
  have he : -(k : ℤ) - s = -((k + s : ℕ) : ℤ) := by
    push_cast
    ring
  simp only [UnpackedFloat.round, ht, decreaseExponent]
  change roundWithAccuracy _ _ ((n * 2 ^ k) <<< s) (-(k : ℤ) - s) _ = _
  rw [hm, he]
  refine roundWithAccuracy_scaled hn h ?_
  simp only [s, exponent]
  omega

lemma normalize_scaled {n : ℕ} (h : n < 2 ^ 53) (k : ℕ) :
    UnpackedFloat.normalize Format.binary64 ((n * 2 ^ k : ℕ) : ℤ) (-k) .positive = unpacked n := by
  rcases Nat.eq_zero_or_pos n with rfl | hn
  · simp [UnpackedFloat.normalize, unpacked]
  · have hp : (0 : ℤ) < ((n * 2 ^ k : ℕ) : ℤ) := by positivity
    have hc : compare ((n * 2 ^ k : ℕ) : ℤ) 0 = .gt := Int.compare_eq_gt.mpr hp
    simp only [UnpackedFloat.normalize, hc, Int.toNat_natCast]
    exact round_scaled hn h k

def fraction (n : ℕ) : ℕ := mantissa n % 2 ^ 52

def storedExponent (n : ℕ) : ℕ := n.log2 + 1023

lemma fraction_lt (n : ℕ) : fraction n < 2 ^ 52 := Nat.mod_lt _ (Nat.two_pow_pos 52)

lemma mantissa_eq {n : ℕ} (hn : 0 < n) (h : n < 2 ^ 53) : mantissa n = 2 ^ 52 + fraction n := by
  have hb := mantissa_bounds hn h
  simp only [fraction]
  omega

lemma exponentBias_eq : Format.binary64.exponentBias = 1023 := rfl

lemma pack_of_pos {n : ℕ} (hn : 0 < n) (h : n < 2 ^ 53) :
    UnpackedFloat.pack Format.binary64 (unpacked n) =
      packComponents Format.binary64 .positive (BitVec.ofNat 11 (storedExponent n))
        (BitVec.ofNat 52 (fraction n)) := by
  have hl := log2_le h
  have he : (exponent n + ((1023 : ℕ) : ℤ) + ((52 : ℕ) : ℤ)).toNat = storedExponent n := by
    rw [exponent, storedExponent]
    omega
  have hm : BitVec.ofNat 52 (mantissa n) = BitVec.ofNat 52 (fraction n) := by
    apply BitVec.eq_of_toNat_eq
    simp only [BitVec.toNat_ofNat, fraction, Nat.mod_mod]
  have hfull : ¬ 2 ^ 11 ≤ storedExponent n + 1 := by
    rw [storedExponent]
    omega
  have hbits : 52 + 1 = Format.binary64.mantissaBits := rfl
  rw [unpacked_of_pos hn]
  simp only [UnpackedFloat.pack, log2_mantissa hn h, hbits, if_true, exponentBias_eq, he, hm,
    if_neg hfull]

lemma unpackSign_positive (e : BitVec 11) (m : BitVec 52) :
    unpackSign (packComponents Format.binary64 .positive e m) = 0#1 := by
  ext i hi
  obtain rfl : i = 0 := by omega
  simp [unpackSign, packComponents, Sign.toBitVec]
  rw [BitVec.getLsbD_append, BitVec.getLsbD_append]
  simp

lemma toNat_implied {m : ℕ} (h : m < 2 ^ 52) :
    (1#1 ++ BitVec.ofNat 52 m).toNat = 2 ^ 52 + m := by
  have hm : (BitVec.ofNat 52 m).toNat = m := by
    rw [BitVec.toNat_ofNat, Nat.mod_eq_of_lt h]
  rw [BitVec.toNat_append, ← Nat.shiftLeft_add_eq_or_of_lt (BitVec.isLt _), hm]
  simp [Nat.shiftLeft_eq]

lemma unpack_pack (n : ℕ) (h : n < 2 ^ 53) :
    (Float.Model.pack (unpacked n)).unpack = unpacked n := by
  rcases Nat.eq_zero_or_pos n with rfl | hn
  · rfl
  have hl := log2_le h
  have hs : (BitVec.ofNat 11 (storedExponent n)).toNat = storedExponent n := by
    rw [BitVec.toNat_ofNat, storedExponent]
    omega
  have hones : BitVec.ofNat 11 (storedExponent n) ≠ -1#11 := by
    intro he
    have := congrArg BitVec.toNat he
    rw [hs, storedExponent] at this
    have hones : (-1#11).toNat = 2047 := rfl
    omega
  have hzero : BitVec.ofNat 11 (storedExponent n) ≠ 0#11 := by
    intro he
    have := congrArg BitVec.toNat he
    rw [hs, storedExponent] at this
    simp at this
  change UnpackedFloat.unpack Format.binary64 (UnpackedFloat.pack Format.binary64 (unpacked n)) = _
  rw [pack_of_pos hn h, UnpackedFloat.unpack]
  simp only [unpackMantissa_packComponents, unpackExponent_packComponents, unpackSign_positive,
    hones, hzero, if_false, hs, toNat_implied (fraction_lt n)]
  rw [unpacked_of_pos hn]
  have he : (storedExponent n : ℤ) - (((1023 : ℕ) : ℤ) + ((52 : ℕ) : ℤ)) = exponent n := by
    rw [storedExponent, exponent]
    omega
  simp only [Sign.ofBitVec, if_true, exponentBias_eq, he, ← mantissa_eq hn h]

lemma toBits_pack_of_pos {n : ℕ} (hn : 0 < n) (h : n < 2 ^ 53) :
    (Float.Model.pack (unpacked n)).toBits.toNat = storedExponent n * 2 ^ 52 + fraction n := by
  have hl := log2_le h
  have hf := fraction_lt n
  have he : storedExponent n < 2 ^ 11 := by
    rw [storedExponent]
    omega
  change (UnpackedFloat.pack Format.binary64 (unpacked n)).toNat = _
  rw [pack_of_pos hn h]
  change (0#1 ++ BitVec.ofNat 11 (storedExponent n) ++ BitVec.ofNat 52 (fraction n)).toNat = _
  rw [BitVec.toNat_append, ← Nat.shiftLeft_add_eq_or_of_lt (BitVec.isLt _), BitVec.toNat_append]
  simp only [BitVec.toNat_ofNat, Nat.shiftLeft_eq, Nat.mod_eq_of_lt he, Nat.mod_eq_of_lt hf]
  simp

lemma add_unpacked {a b : ℕ} (h : a + b < 2 ^ 53) :
    UnpackedFloat.add Format.binary64 (unpacked a) (unpacked b) = unpacked (a + b) := by
  rcases Nat.eq_zero_or_pos a with rfl | ha
  · rw [zero_add]
    rcases Nat.eq_zero_or_pos b with rfl | hb
    · rfl
    · rw [unpacked_of_pos hb]
      rfl
  rcases Nat.eq_zero_or_pos b with rfl | hb
  · rw [add_zero, unpacked_of_pos ha]
    rfl
  have hla := log2_le (show a < 2 ^ 53 by omega)
  have hlb := log2_le (show b < 2 ^ 53 by omega)
  let l := min a.log2 b.log2
  have he : min (exponent a) (exponent b) = -((52 - l : ℕ) : ℤ) := by
    simp only [exponent, l]
    omega
  have hm : ∀ n : ℕ, l ≤ n.log2 → n.log2 ≤ 52 →
      mantissa n <<< (exponent n - -((52 - l : ℕ) : ℤ)).toNat = n * 2 ^ (52 - l) := by
    intro n hl hn
    have hs : (exponent n - -((52 - l : ℕ) : ℤ)).toNat = n.log2 - l := by
      rw [exponent]
      omega
    rw [hs, Nat.shiftLeft_eq, mantissa, mul_assoc, ← pow_add]
    congr 2
    omega
  have hsum : ((a * 2 ^ (52 - l) : ℕ) : ℤ) + ((b * 2 ^ (52 - l) : ℕ) : ℤ) =
      (((a + b) * 2 ^ (52 - l) : ℕ) : ℤ) := by
    push_cast
    ring
  rw [unpacked_of_pos ha, unpacked_of_pos hb]
  simp only [UnpackedFloat.add, decreaseExponent, he, Sign.apply]
  rw [hm a (min_le_left _ _) hla, hm b (min_le_right _ _) hlb, hsum]
  exact normalize_scaled h _

lemma mul_unpacked {a b : ℕ} (ha' : a < 2 ^ 53) (hb' : b < 2 ^ 53) (h : a * b < 2 ^ 53) :
    UnpackedFloat.mul Format.binary64 (unpacked a) (unpacked b) = unpacked (a * b) := by
  rcases Nat.eq_zero_or_pos a with rfl | ha
  · rcases Nat.eq_zero_or_pos b with rfl | hb
    · rfl
    · rw [zero_mul, unpacked_of_pos hb]
      rfl
  rcases Nat.eq_zero_or_pos b with rfl | hb
  · rw [mul_zero, unpacked_of_pos ha]
    rfl
  have hla := log2_le ha'
  have hlb := log2_le hb'
  have hp : 0 < a * b := Nat.mul_pos ha hb
  have hl : a.log2 + b.log2 ≤ (a * b).log2 := by
    rw [Nat.le_log2 hp.ne', pow_add]
    exact Nat.mul_le_mul (Nat.log2_self_le ha.ne') (Nat.log2_self_le hb.ne')
  have hm : mantissa a * mantissa b = a * b * 2 ^ ((52 - a.log2) + (52 - b.log2)) := by
    rw [mantissa, mantissa, pow_add]
    ring
  have he : exponent a + exponent b = -(((52 - a.log2) + (52 - b.log2) : ℕ) : ℤ) := by
    rw [exponent, exponent]
    omega
  rw [unpacked_of_pos ha, unpacked_of_pos hb]
  simp only [UnpackedFloat.mul, hm, he]
  exact roundWithAccuracy_scaled hp h (by omega)

lemma exponent_lt_or {a b : ℕ} (ha : 0 < a) (h : a < b) :
    a.log2 < b.log2 ∨ a.log2 = b.log2 ∧ mantissa a < mantissa b := by
  have hle : a.log2 ≤ b.log2 := by
    rw [Nat.le_log2 (by omega)]
    exact (Nat.log2_self_le ha.ne').trans h.le
  rcases hle.lt_or_eq with hlt | heq
  · exact Or.inl hlt
  · refine Or.inr ⟨heq, ?_⟩
    rw [mantissa, mantissa, heq]
    exact Nat.mul_lt_mul_of_pos_right h (Nat.two_pow_pos _)

lemma compare_unpacked_of_lt {a b : ℕ} (h : a < b) :
    (unpacked a).compare (unpacked b) = some .lt ∧ (unpacked b).compare (unpacked a) = some .gt := by
  have hb : 0 < b := by omega
  rcases Nat.eq_zero_or_pos a with rfl | ha
  · rw [unpacked_of_pos hb]
    exact ⟨rfl, rfl⟩
  rw [unpacked_of_pos ha, unpacked_of_pos hb]
  simp only [UnpackedFloat.compare]
  rcases exponent_lt_or ha h with hl | ⟨hl, hm⟩
  · have he : exponent a < exponent b := by
      rw [exponent, exponent]
      omega
    rw [Int.compare_eq_lt.mpr he, Int.compare_eq_gt.mpr he]
    exact ⟨rfl, rfl⟩
  · have he : exponent a = exponent b := by rw [exponent, exponent, hl]
    rw [he, Int.compare_eq_eq.mpr rfl, Nat.compare_eq_lt.mpr hm, Nat.compare_eq_gt.mpr hm]
    exact ⟨rfl, rfl⟩

lemma compare_unpacked (a b : ℕ) : (unpacked a).compare (unpacked b) = some (compare a b) := by
  rcases lt_trichotomy a b with h | rfl | h
  · rw [(compare_unpacked_of_lt h).1, Nat.compare_eq_lt.mpr h]
  · rw [Nat.compare_eq_eq.mpr rfl]
    rcases Nat.eq_zero_or_pos a with rfl | ha
    · rfl
    · rw [unpacked_of_pos ha]
      simp [UnpackedFloat.compare]
  · rw [(compare_unpacked_of_lt h).2, Nat.compare_eq_gt.mpr h]

lemma toNat_toUInt64 {n : ℕ} (h : n < 2 ^ 53) : n.toUInt64.toNat = n := by
  simp only [Nat.toUInt64, UInt64.toNat_ofNat']
  omega

lemma toModel_ofNat {n : ℕ} (h : n < 2 ^ 53) :
    (Float.ofNat n).toModel = Float.Model.pack (unpacked n) := by
  have hr : UnpackedFloat.ofNat Format.binary64 n = unpacked n := by
    simpa [UnpackedFloat.ofNat, UnpackedFloat.ofInt] using normalize_scaled h 0
  have hf : Float.ofNat n = n.toUInt64.toFloat * Float.ofBits 0x3FF0000000000000 :=
    dif_pos ⟨h, Nat.zero_le 22⟩
  have hone : (Float.ofBits 0x3FF0000000000000).toModel.unpack = unpacked 1 := rfl
  have hn : n.toUInt64.toFloat.toModel.unpack = unpacked n := by
    change (Float.Model.pack (UnpackedFloat.ofNat _ n.toUInt64.toNat)).unpack = _
    rw [toNat_toUInt64 h, hr, unpack_pack n h]
  rw [hf]
  change Float.Model.pack (UnpackedFloat.mul _ _ _) = _
  rw [hn, hone, mul_unpacked h (by norm_num) (by omega), mul_one]

lemma unpack_ofNat {n : ℕ} (h : n < 2 ^ 53) : (Float.ofNat n).toModel.unpack = unpacked n := by
  rw [toModel_ofNat h, unpack_pack n h]

lemma eq_ofNat {n : ℕ} {x : Float} (h : n < 2 ^ 53)
    (hx : x.toModel = Float.Model.pack (unpacked n)) : x = Float.ofNat n :=
  congrArg Float.ofModel (hx.trans (toModel_ofNat h).symm)

lemma add_ofNat {a b : ℕ} (h : a + b < 2 ^ 53) :
    Float.ofNat a + Float.ofNat b = Float.ofNat (a + b) := by
  apply eq_ofNat h
  change Float.Model.pack (UnpackedFloat.add _ _ _) = _
  rw [unpack_ofNat (by omega), unpack_ofNat (by omega), add_unpacked h]

lemma mul_ofNat {a b : ℕ} (ha : a < 2 ^ 53) (hb : b < 2 ^ 53) (h : a * b < 2 ^ 53) :
    Float.ofNat a * Float.ofNat b = Float.ofNat (a * b) := by
  apply eq_ofNat h
  change Float.Model.pack (UnpackedFloat.mul _ _ _) = _
  rw [unpack_ofNat ha, unpack_ofNat hb, mul_unpacked ha hb h]

def code (n : ℕ) : ℕ := if n = 0 then 0 else storedExponent n * 2 ^ 52 + fraction n

lemma code_lt {a b : ℕ} (h : a < b) (hb : b < 2 ^ 53) : code a < code b := by
  have hb' : 0 < b := by omega
  have hfa := fraction_lt a
  unfold code storedExponent
  rcases Nat.eq_zero_or_pos a with rfl | ha
  · rw [if_pos rfl, if_neg hb'.ne']
    omega
  rw [if_neg ha.ne', if_neg hb'.ne']
  rcases exponent_lt_or ha h with hl | ⟨hl, hm⟩
  · omega
  · have hma := mantissa_eq ha (by omega)
    have hmb := mantissa_eq hb' hb
    omega

lemma code_lt_infinity {n : ℕ} (h : n < 2 ^ 53) : code n < 2047 * 2 ^ 52 := by
  have hl := log2_le h
  have hf := fraction_lt n
  rw [code, storedExponent]
  split <;> omega

lemma toBits_ofNat {n : ℕ} (h : n < 2 ^ 53) : (Float.ofNat n).toBits.toNat = code n := by
  rw [Float.toBits, toModel_ofNat h, code]
  split
  · subst n
    rfl
  · exact toBits_pack_of_pos (by omega) h

lemma isNaN_ofNat {n : ℕ} (h : n < 2 ^ 53) : (Float.ofNat n).isNaN = false := by
  change (Float.ofNat n).toModel.unpack.isNaN = false
  rw [unpack_ofNat h, unpacked]
  split <;> rfl

lemma ofBits_toBits {n : ℕ} (h : n < 2 ^ 53) :
    Float.ofBits (Float.ofNat n).toBits = Float.ofNat n := by
  apply eq_ofNat h
  change Float.Model.pack (Float.ofNat n).toModel.unpack = _
  rw [unpack_ofNat h]

end Navigation.Whole
