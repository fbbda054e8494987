import Mathlib
import Navigation.Priority
import Navigation.Proofs.Number.Rounding

namespace Navigation

open Float.Model Rounding

noncomputable def value (x : Float) : ℝ := amount x.toModel.unpack

def Plain (x : Float) : Prop := Canonical x.toModel.unpack

variable {x y : Float} {k l r s : ℝ} {n : ℕ}

lemma plain_pack {u : UnpackedFloat} (h : Rounds u r) :
    Plain (.ofModel (.pack u)) ∧ |value (.ofModel (.pack u)) - r| ≤ ulp * r := by
  rw [Plain, value, h.canonical.unpack_pack]
  exact ⟨h.canonical, h.near⟩

lemma Plain.add (hx : Plain x) (hy : Plain y) (h : value x + value y ≤ 2 ^ (1000 : ℤ)) :
    Plain (x + y) ∧ |value (x + y) - (value x + value y)| ≤ ulp * (value x + value y) :=
  plain_pack (Canonical.add_rounds hx hy h)

lemma Plain.mul (hx : Plain x) (hy : Plain y) (h : value x * value y = 0 ∨ Ranged (value x * value y)) :
    Plain (x * y) ∧ |value (x * y) - value x * value y| ≤ ulp * (value x * value y) :=
  plain_pack (Canonical.mul_rounds hx hy h)

lemma Plain.sqrt (hx : Plain x) : Plain x.sqrt ∧ |value x.sqrt - √(value x)| ≤ ulp * √(value x) :=
  plain_pack (Canonical.sqrt_rounds hx)

lemma Plain.lt_iff (hx : Plain x) (hy : Plain y) : x < y ↔ value x < value y := by
  have h : x < y ↔ (x.toModel.unpack.compare y.toModel.unpack == some .lt) = true := decide_eq_true_iff
  rw [h, beq_iff_eq, Canonical.compare_eq_lt hx hy]
  rfl

lemma Plain.rank_ofFloat (hx : Plain x) :
    (Priority.ofFloat x).rank = Word.half + code x.toModel.unpack := by
  have hnan : x.isNaN = false := Canonical.isNaN_eq_false hx
  have hbits : x.toBits.toNat = code x.toModel.unpack := by
    have hback : x = .ofModel (.pack x.toModel.unpack) := (Float.ofBits_toBits x).symm
    conv_lhs => rw [hback]
    exact Canonical.toBits_pack hx
  rw [Priority.ofFloat, hnan, Priority.rank]
  simp only [Bool.false_eq_true, if_false, hbits, if_pos (Canonical.code_lt_half hx)]

lemma Plain.rank_le_iff (hx : Plain x) (hy : Plain y) :
    (Priority.ofFloat x).rank ≤ (Priority.ofFloat y).rank ↔ value x ≤ value y := by
  rw [hx.rank_ofFloat, hy.rank_ofFloat, Nat.add_le_add_iff_left, ← not_lt, Canonical.code_lt_iff hy hx, not_lt]
  rfl

lemma plain_ofNat (h : n < 2 ^ 53) : Plain (Float.ofNat n) ∧ value (Float.ofNat n) = n := by
  rw [Plain, value, Whole.unpack_ofNat h]
  rcases Nat.eq_zero_or_pos n with rfl | hn
  · exact ⟨.zero, Nat.cast_zero.symm⟩
  · have hl := Whole.log2_le h
    rw [Whole.unpacked_of_pos hn]
    refine ⟨.finite _ (Whole.log2_mantissa hn h) ?_ ?_, ?_⟩
    · rw [Whole.exponent]
      omega
    · rw [Whole.exponent]
      omega
    · change ((Whole.mantissa n : ℕ) : ℝ) * 2 ^ Whole.exponent n = n
      have he : Whole.exponent n = -((52 - n.log2 : ℕ) : ℤ) := by
        rw [Whole.exponent]
        omega
      rw [Whole.mantissa, he, zpow_neg, zpow_natCast]
      push_cast
      field_simp

/-- A double within `k` parts in 2^52 of `r`. -/
structure Near (k : ℝ) (x : Float) (r : ℝ) : Prop where
  plain : Plain x
  near : |value x - r| ≤ k * ulp * r

namespace Near

lemma ofNat (h : n < 2 ^ 53) : Near 0 (Float.ofNat n) n :=
  ⟨(plain_ofNat h).1, by simp [(plain_ofNat h).2]⟩

lemma mono (h : Near k x r) (hr : 0 ≤ r) (hkl : k ≤ l) : Near l x r := by
  have hu := ulp_pos
  refine ⟨h.plain, h.near.trans ?_⟩
  gcongr

lemma mul_ulp_le (hk : k ≤ 2 ^ 20) : k * ulp ≤ 2⁻¹ ^ 32 := by
  have hone := two_pow_mul_ulp
  have := mul_le_mul_of_nonneg_right hk ulp_pos.le
  norm_num at this hone ⊢
  linarith

lemma value_le (h : Near k x r) (hr : 0 ≤ r) (hk : k ≤ 2 ^ 20) : value x ≤ 2 * r := by
  have hle := (abs_le.mp h.near).2
  have hsmall := mul_le_mul_of_nonneg_right (mul_ulp_le hk) hr
  norm_num at hsmall
  linarith

lemma two_pow_le : (2 : ℝ) ^ 101 ≤ 2 ^ (1000 : ℤ) := by
  rw [← zpow_natCast]
  exact zpow_le_zpow_right₀ one_le_two (by norm_num)

lemma ranged (hl : 8⁻¹ ≤ r) (hu : r ≤ 2 ^ 101) : Ranged r := by
  refine ⟨le_trans ?_ hl, hu.trans two_pow_le⟩
  calc (2 : ℝ) ^ (-1021 : ℤ) ≤ 2 ^ (-3 : ℤ) := zpow_le_zpow_right₀ one_le_two (by norm_num)
    _ = 8⁻¹ := by norm_num

lemma add (hx : Near k x r) (hy : Near k y s) (hr : 0 ≤ r) (hs : 0 ≤ s) (hk : k ≤ 2 ^ 20)
    (h : r + s ≤ 2 ^ 100) : Near (k + 2) (x + y) (r + s) := by
  have hsum : value x + value y ≤ 2 * (r + s) := by
    have hx' := hx.value_le hr hk
    have hy' := hy.value_le hs hk
    linarith
  have hlimit : value x + value y ≤ 2 ^ 101 := hsum.trans (by norm_num at h ⊢; linarith)
  obtain ⟨hp, hround⟩ := hx.plain.add hy.plain (hlimit.trans two_pow_le)
  have hrel := mul_le_mul_of_nonneg_left hsum ulp_pos.le
  obtain ⟨hl, hh⟩ := abs_le.mp hround
  obtain ⟨hxl, hxh⟩ := abs_le.mp hx.near
  obtain ⟨hyl, hyh⟩ := abs_le.mp hy.near
  refine ⟨hp, abs_le.mpr ⟨?_, ?_⟩⟩ <;> linarith

lemma abs_mul_sub_le (hx : Near k x r) (hy : Near l y s) (hr : 0 ≤ r) (hs : 0 ≤ s) (hk : 0 ≤ k)
    (hk' : k ≤ 2 ^ 20) (hl : 0 ≤ l) (hl' : l ≤ 2 ^ 20) :
    |value x * value y - r * s| ≤ (k + l + 1) * ulp * (r * s) := by
  -- of the errors of two factors their product does not count
  have hu := ulp_pos
  have hsplit : value x * value y - r * s =
      (value x - r) * s + r * (value y - s) + (value x - r) * (value y - s) := by ring
  have hx' := mul_le_mul_of_nonneg_right hx.near hs
  have hy' := mul_le_mul_of_nonneg_left hy.near hr
  have hxy := mul_le_mul hx.near hy.near (abs_nonneg _) (by positivity)
  have hkl : k * l * ulp ≤ 1 := by
    have hone := mul_ulp_le hk'
    have hmul := mul_le_mul hone hl' hl (by positivity)
    norm_num at hmul ⊢
    linarith
  have hsq := mul_le_mul_of_nonneg_right hkl (mul_nonneg hu.le (mul_nonneg hr hs))
  rw [hsplit]
  refine (abs_add_three _ _ _).trans ?_
  rw [abs_mul, abs_mul, abs_mul, abs_of_nonneg hs, abs_of_nonneg hr]
  linarith

lemma mul (hx : Near k x r) (hy : Near l y s) (hr : 0 ≤ r) (hs : 0 ≤ s) (hk : 0 ≤ k) (hk' : k ≤ 2 ^ 20)
    (hl : 0 ≤ l) (hl' : l ≤ 2 ^ 20) (h : r * s = 0 ∨ 4⁻¹ ≤ r * s) (hu : r * s ≤ 2 ^ 100) :
    Near (k + l + 3) (x * y) (r * s) := by
  have hrs : 0 ≤ r * s := mul_nonneg hr hs
  have hprod := hx.abs_mul_sub_le hy hr hs hk hk' hl hl'
  obtain ⟨hlo, hhi⟩ := abs_le.mp hprod
  have hsmall : (k + l + 1) * ulp * (r * s) ≤ 2⁻¹ * (r * s) := by
    refine mul_le_mul_of_nonneg_right ?_ hrs
    have hku := mul_ulp_le hk'
    have hlu := mul_ulp_le hl'
    have hone := mul_ulp_le (k := 1) (by norm_num)
    norm_num at hku hlu hone ⊢
    linarith
  have hranged : value x * value y = 0 ∨ Ranged (value x * value y) := by
    rcases h with hz | hq
    · rw [hz, mul_zero, sub_zero] at hprod
      exact Or.inl (abs_eq_zero.mp (le_antisymm hprod (abs_nonneg _)))
    · refine Or.inr (ranged (by linarith) ?_)
      norm_num at hu ⊢
      linarith
  obtain ⟨hp, hround⟩ := hx.plain.mul hy.plain hranged
  have hdouble : value x * value y ≤ 2 * (r * s) := by linarith
  have hrel := mul_le_mul_of_nonneg_left hdouble ulp_pos.le
  obtain ⟨hl, hh⟩ := abs_le.mp hround
  refine ⟨hp, abs_le.mpr ⟨?_, ?_⟩⟩ <;> linarith

lemma sqrt (h : Plain x) : Near 1 x.sqrt √(value x) := by
  obtain ⟨hp, hround⟩ := h.sqrt
  exact ⟨hp, by rwa [one_mul]⟩

end Near

end Navigation
