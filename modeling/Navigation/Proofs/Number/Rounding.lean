import Mathlib
import Navigation.Word
import Navigation.Proofs.Number.Whole

/-! The numbers that doubles stand for, and how far an operation is from the exact one. -/

namespace Navigation.Rounding

open Float.Model Float.Model.UnpackedFloat

/-- Zero, or a positive number of full precision. -/
inductive Canonical : UnpackedFloat → Prop
  | zero : Canonical (.zero .positive)
  | finite {m : ℕ} {e : ℤ} (hm : 0 < m) : m.log2 = 52 → -1074 ≤ e → e ≤ 971 →
      Canonical (.finite .positive m e hm)

noncomputable def amount : UnpackedFloat → ℝ
  | .finite .positive m e _ => m * 2 ^ e
  | _ => 0

noncomputable def ulp : ℝ := 2⁻¹ ^ 52

lemma ulp_pos : 0 < ulp := by
  rw [ulp]
  positivity

lemma two_pow_mul_ulp : 2 ^ 52 * ulp = 1 := by
  rw [ulp]
  norm_num

structure Rounds (u : UnpackedFloat) (r : ℝ) : Prop where
  canonical : Canonical u
  near : |amount u - r| ≤ ulp * r

def Ranged (r : ℝ) : Prop := 2 ^ (-1021 : ℤ) ≤ r ∧ r ≤ 2 ^ (1000 : ℤ)

variable {u v : UnpackedFloat} {m n M : ℕ} {e f E : ℤ} {r x : ℝ}

lemma Canonical.amount_nonneg (h : Canonical u) : 0 ≤ amount u := by
  cases h with
  | zero => exact le_rfl
  | finite hm => exact mul_nonneg (Nat.cast_nonneg _) (zpow_nonneg zero_le_two _)

lemma Canonical.rounds_self (h : Canonical u) : Rounds u (amount u) := by
  refine ⟨h, ?_⟩
  rw [sub_self, abs_zero]
  exact mul_nonneg ulp_pos.le h.amount_nonneg

section Round

lemma mantissa_shiftRight (m : ExtendedMantissa) (k : ℕ) : (m >>> k).mantissa = m.mantissa / 2 ^ k := by
  induction k with
  | zero => simp [HShiftRight.hShiftRight, Nat.repeat]
  | succ k ih =>
    change (m >>> k).mantissa / 2 = _
    rw [ih, Nat.div_div_eq_div_mul, pow_succ]

lemma mantissa_ofMantissaAndAccuracy (m : ℕ) (a : Accuracy) :
    (ExtendedMantissa.ofMantissaAndAccuracy m a).mantissa = m := by
  cases a with
  | exact => rfl
  | inexact o => cases o <;> rfl

lemma roundedMantissa_eq (m : ExtendedMantissa) :
    m.roundedMantissa = m.mantissa ∨ m.roundedMantissa = m.mantissa + 1 := by
  obtain ⟨m, round, sticky⟩ := m
  cases round <;> cases sticky <;>
    simp [ExtendedMantissa.roundedMantissa, ExtendedMantissa.accuracy, Accuracy.roundToNearestEven]
  omega

lemma shiftToTargetExponent_eq (hM : 52 ≤ M.log2) (hE : -1022 ≤ M.log2 + E) (a : Accuracy) :
    ∃ d : ExtendedMantissa, d.mantissa = M / 2 ^ (M.log2 - 52) ∧
      shiftToTargetExponent Format.binary64 M E a = (d, E + (M.log2 - 52 : ℕ)) := by
  have ht : Format.binary64.targetExponent (totalExponent M E) = E + (M.log2 - 52 : ℕ) := by
    rw [Whole.targetExponent_eq]
    omega
  have hk : (E + (M.log2 - 52 : ℕ) - E).toNat = M.log2 - 52 := by omega
  refine ⟨ExtendedMantissa.ofMantissaAndAccuracy M a >>> (M.log2 - 52), ?_, ?_⟩
  · rw [mantissa_shiftRight, mantissa_ofMantissaAndAccuracy]
  · simp only [shiftToTargetExponent, shiftToExponent, ht, hk]

lemma shiftToTargetExponent_carry (hl : 2 ^ 52 ≤ m) (hu : m ≤ 2 ^ 53) (he : -1074 ≤ e) :
    ∃ n f, shiftToTargetExponent Format.binary64 m e .exact = (ExtendedMantissa.mk n false false, f) ∧
      n.log2 = 52 ∧ e ≤ f ∧ f ≤ e + 1 ∧ (n : ℝ) * 2 ^ f = m * 2 ^ e := by
  -- the second shift only takes back a carry
  rcases hu.lt_or_eq with hlt | rfl
  · have hlog : m.log2 = 52 := (Nat.log2_eq_iff (by omega)).mpr ⟨hl, hlt⟩
    have hs := Whole.shiftToTargetExponent_scaled m 0 e (by
      rw [Whole.targetExponent_eq, pow_zero, mul_one, hlog]
      omega)
    rw [pow_zero, mul_one, Nat.cast_zero, add_zero] at hs
    exact ⟨m, e, hs, hlog, le_rfl, by omega, rfl⟩
  · have hs := Whole.shiftToTargetExponent_scaled (2 ^ 52) 1 e (by
      rw [Whole.targetExponent_eq, ← pow_add, Nat.log2_two_pow]
      omega)
    refine ⟨2 ^ 52, e + 1, hs, Nat.log2_two_pow, by omega, le_rfl, ?_⟩
    rw [zpow_add_one₀ two_ne_zero]
    push_cast
    ring

lemma two_pow_log2_le (hM : 0 < M) : (2 : ℝ) ^ (M.log2 : ℤ) ≤ M := by
  rw [zpow_natCast]
  exact_mod_cast Nat.log2_self_le hM.ne'

lemma le_two_pow_log2 (M : ℕ) : (M : ℝ) + 1 ≤ 2 ^ ((M.log2 : ℤ) + 1) := by
  have h : M + 1 ≤ 2 ^ (M.log2 + 1) := Nat.lt_log2_self
  exact_mod_cast h

lemma log2_mem_of_ranged (hM : 0 < M) (hx : M ≤ x) (hx' : x ≤ M + 1) (hr : Ranged (x * 2 ^ E)) :
    -1022 ≤ M.log2 + E ∧ M.log2 + E ≤ 1000 := by
  have hpos : (0 : ℝ) ≤ 2 ^ E := by positivity
  have hl : (2 : ℝ) ^ (M.log2 + E) ≤ 2 ^ (1000 : ℤ) := by
    rw [zpow_add₀ two_ne_zero]
    exact (mul_le_mul_of_nonneg_right ((two_pow_log2_le hM).trans hx) hpos).trans hr.2
  have hu : (2 : ℝ) ^ (-1021 : ℤ) ≤ 2 ^ ((M.log2 : ℤ) + 1 + E) := by
    rw [zpow_add₀ two_ne_zero]
    exact hr.1.trans (mul_le_mul_of_nonneg_right (hx'.trans (le_two_pow_log2 M)) hpos)
  rw [zpow_le_zpow_iff_right₀ one_lt_two] at hl hu
  omega

lemma abs_cut_sub_le {k : ℕ} (hm : m = M / 2 ^ k ∨ m = M / 2 ^ k + 1) (hx : M ≤ x) (hx' : x ≤ M + 1) :
    |m * 2 ^ k - x| ≤ 2 ^ k := by
  have hl : M / 2 ^ k * 2 ^ k ≤ M := Nat.div_mul_le_self M _
  have hu : M + 1 ≤ (M / 2 ^ k + 1) * 2 ^ k := Nat.lt_mul_of_div_lt (Nat.lt_succ_self _) (Nat.two_pow_pos k)
  generalize M / 2 ^ k = c at hm hl hu
  have hl' : (c : ℝ) * 2 ^ k ≤ M := by exact_mod_cast hl
  have hu' : (M : ℝ) + 1 ≤ (c + 1) * 2 ^ k := by exact_mod_cast hu
  rw [abs_le]
  rcases hm with rfl | rfl
  · constructor <;> linarith
  · push_cast
    constructor <;> linarith

lemma div_two_pow_mem {k : ℕ} (hM : 0 < M) (hk : M.log2 = 52 + k) :
    2 ^ 52 ≤ M / 2 ^ k ∧ M / 2 ^ k < 2 ^ 53 := by
  have hself := Nat.log2_self_le hM.ne'
  have hlt : M < 2 ^ (M.log2 + 1) := Nat.lt_log2_self
  rw [hk] at hself hlt
  rw [Nat.le_div_iff_mul_le (Nat.two_pow_pos k), Nat.div_lt_iff_lt_mul (Nat.two_pow_pos k), ← pow_add,
    ← pow_add]
  exact ⟨hself, lt_of_lt_of_eq hlt (congrArg (2 ^ ·) (by omega))⟩

lemma two_pow_le_ulp_mul {k : ℕ} (hM : 0 < M) (hk : M.log2 = 52 + k) (hx : M ≤ x) : (2 : ℝ) ^ k ≤ ulp * x := by
  have hself := Nat.log2_self_le hM.ne'
  have hle : (2 : ℝ) ^ 52 * 2 ^ k ≤ x := by
    rw [hk] at hself
    refine le_trans ?_ hx
    rw [← pow_add]
    exact_mod_cast hself
  rw [ulp, inv_pow, inv_mul_eq_div, le_div_iff₀ (by positivity), mul_comm]
  exact hle

lemma roundWithAccuracy_rounds (hM : 52 ≤ M.log2) (hx : M ≤ x) (hx' : x ≤ M + 1) (hr : Ranged (x * 2 ^ E))
    (a : Accuracy) : Rounds (roundWithAccuracy Format.binary64 .positive M E a) (x * 2 ^ E) := by
  have hpos : 0 < M := by
    by_contra h
    simp [show M = 0 by omega] at hM
  obtain ⟨hlo, hhi⟩ := log2_mem_of_ranged hpos hx hx' hr
  obtain ⟨d, hd, hfirst⟩ := shiftToTargetExponent_eq (E := E) hM (by omega) a
  set k := M.log2 - 52 with hk
  have hlog : M.log2 = 52 + k := by omega
  have hbits := div_two_pow_mem hpos hlog
  have hrounded := roundedMantissa_eq d
  rw [hd] at hrounded
  obtain ⟨n, f, hsecond, hn, hf, hf', hvalue⟩ := shiftToTargetExponent_carry (m := d.roundedMantissa)
    (e := E + (k : ℕ)) (by omega) (by omega) (by omega)
  have hnpos : 0 < n := by
    by_contra h
    simp [show n = 0 by omega] at hn
  rw [roundWithAccuracy, hfirst]
  simp only [hsecond, dif_neg hnpos.ne']
  refine ⟨.finite hnpos hn (by omega) (by omega), ?_⟩
  have hcut : |(d.roundedMantissa : ℝ) * 2 ^ k - x| ≤ ulp * x :=
    (abs_cut_sub_le hrounded hx hx').trans (two_pow_le_ulp_mul hpos hlog hx)
  have hsplit : (n : ℝ) * 2 ^ f - x * 2 ^ E = (d.roundedMantissa * 2 ^ k - x) * 2 ^ E := by
    rw [hvalue, zpow_add₀ two_ne_zero, zpow_natCast]
    ring
  change |(n : ℝ) * 2 ^ f - x * 2 ^ E| ≤ _
  rw [hsplit, abs_mul, abs_of_nonneg (by positivity : (0 : ℝ) ≤ 2 ^ E), ← mul_assoc]
  exact mul_le_mul_of_nonneg_right hcut (by positivity)

lemma round_rounds (hM : 0 < M) (hr : Ranged (M * 2 ^ E)) :
    Rounds (UnpackedFloat.round Format.binary64 .positive M E) (M * 2 ^ E) := by
  obtain ⟨hlo, hhi⟩ := log2_mem_of_ranged hM le_rfl (by linarith) hr
  obtain ⟨k, hk⟩ : ∃ k, (E - Format.binary64.targetExponent (totalExponent M E)).toNat = k := ⟨_, rfl⟩
  have hk' := hk
  rw [Whole.targetExponent_eq] at hk'
  have hlog : (M * 2 ^ k).log2 = M.log2 + k := Whole.log2_scaled hM k
  have hvalue : ((M * 2 ^ k : ℕ) : ℝ) * 2 ^ (E - k) = M * 2 ^ E := by
    rw [zpow_sub₀ two_ne_zero, zpow_natCast]
    push_cast
    field_simp
  rw [← hvalue] at hr ⊢
  simp only [UnpackedFloat.round, decreaseExponent, hk, Nat.shiftLeft_eq]
  exact roundWithAccuracy_rounds (by omega) le_rfl (by linarith) hr _

end Round

section Operations

lemma two_pow_le_of_log2 (hm : m.log2 = 52) : 2 ^ 52 ≤ m ∧ m < 2 ^ 53 := by
  refine (Nat.log2_eq_iff ?_).mp hm
  rintro rfl
  simp at hm

lemma le_amount (hm : m.log2 = 52) (he : -1074 ≤ e) : (2 : ℝ) ^ (-1022 : ℤ) ≤ m * 2 ^ e := by
  have hl : (2 : ℝ) ^ (52 : ℤ) ≤ m := by exact_mod_cast (two_pow_le_of_log2 hm).1
  calc (2 : ℝ) ^ (-1022 : ℤ) = 2 ^ (52 : ℤ) * 2 ^ (-1074 : ℤ) := by
        rw [← zpow_add₀ two_ne_zero]
        norm_num
    _ ≤ m * 2 ^ e := mul_le_mul hl (zpow_le_zpow_right₀ one_le_two he) (by positivity) (by positivity)

lemma shiftLeft_amount (he : f ≤ e) : ((m <<< (e - f).toNat : ℕ) : ℝ) * 2 ^ f = m * 2 ^ e := by
  obtain ⟨k, rfl⟩ := Int.le.dest he
  rw [add_sub_cancel_left, Int.toNat_natCast, Nat.shiftLeft_eq, zpow_add₀ two_ne_zero, zpow_natCast]
  push_cast
  ring

def sum (m : ℕ) (e : ℤ) (n : ℕ) (f : ℤ) : ℕ := m <<< (e - min e f).toNat + n <<< (f - min e f).toNat

lemma sum_pos (hm : 0 < m) : 0 < sum m e n f := by
  rw [sum, Nat.shiftLeft_eq]
  positivity

lemma sum_amount : (sum m e n f : ℝ) * 2 ^ min e f = m * 2 ^ e + n * 2 ^ f := by
  rw [sum, Nat.cast_add, add_mul, shiftLeft_amount (min_le_left _ _), shiftLeft_amount (min_le_right _ _)]

lemma add_finite (hm : 0 < m) (hn : 0 < n) :
    UnpackedFloat.add Format.binary64 (.finite .positive m e hm) (.finite .positive n f hn) =
      UnpackedFloat.round Format.binary64 .positive (sum m e n f) (min e f) := by
  have hc : compare (sum m e n f : ℤ) 0 = .gt := Int.compare_eq_gt.mpr (Int.natCast_pos.mpr (sum_pos hm))
  change UnpackedFloat.normalize _ (((m <<< (e - min e f).toNat : ℕ) : ℤ) +
    ((n <<< (f - min e f).toNat : ℕ) : ℤ)) (min e f) _ = _
  rw [← Nat.cast_add, ← sum, UnpackedFloat.normalize, hc]
  rfl

lemma Canonical.add_rounds (hu : Canonical u) (hv : Canonical v)
    (h : amount u + amount v ≤ 2 ^ (1000 : ℤ)) :
    Rounds (UnpackedFloat.add Format.binary64 u v) (amount u + amount v) := by
  cases hu with
  | zero =>
    have hzero : amount (.zero .positive) = 0 := rfl
    rw [hzero, zero_add]
    cases hv with
    | zero => exact Canonical.zero.rounds_self
    | finite hm hlog hl hu => exact (Canonical.finite hm hlog hl hu).rounds_self
  | @finite m e hm hlog hl hu =>
    cases hv with
    | zero =>
      have hzero : amount (.zero .positive) = 0 := rfl
      rw [hzero, add_zero]
      exact (Canonical.finite hm hlog hl hu).rounds_self
    | @finite n f hn hlog' hl' hu' =>
      change Rounds _ ((m : ℝ) * 2 ^ e + n * 2 ^ f)
      rw [add_finite hm hn, ← sum_amount]
      refine round_rounds (sum_pos hm) ⟨?_, ?_⟩
      · have hm' := le_amount hlog hl
        have hn' := le_amount hlog' hl'
        rw [sum_amount]
        calc (2 : ℝ) ^ (-1021 : ℤ) = 2 ^ (-1022 : ℤ) + 2 ^ (-1022 : ℤ) := by
              rw [← two_mul, ← zpow_one_add₀ two_ne_zero]
              norm_num
          _ ≤ _ := add_le_add hm' hn'
      · rw [sum_amount]
        exact h

lemma Canonical.mul_rounds (hu : Canonical u) (hv : Canonical v)
    (h : amount u * amount v = 0 ∨ Ranged (amount u * amount v)) :
    Rounds (UnpackedFloat.mul Format.binary64 u v) (amount u * amount v) := by
  cases hu with
  | zero =>
    have hzero : amount (.zero .positive) = 0 := rfl
    rw [hzero, zero_mul]
    cases hv <;> exact Canonical.zero.rounds_self
  | @finite m e hm hlog hl hu =>
    cases hv with
    | zero =>
      have hzero : amount (.zero .positive) = 0 := rfl
      rw [hzero, mul_zero]
      exact Canonical.zero.rounds_self
    | @finite n f hn hlog' hl' hu' =>
      have hprod : ((m * n : ℕ) : ℝ) * 2 ^ (e + f) = m * 2 ^ e * (n * 2 ^ f) := by
        rw [zpow_add₀ two_ne_zero]
        push_cast
        ring
      have hpos : (m : ℝ) * 2 ^ e * (n * 2 ^ f) ≠ 0 := by positivity
      have hr : Ranged (m * 2 ^ e * (n * 2 ^ f)) := h.resolve_left hpos
      have hlong : 52 ≤ (m * n).log2 := by
        rw [Nat.le_log2 (Nat.mul_pos hm hn).ne']
        exact (two_pow_le_of_log2 hlog).1.trans (Nat.le_mul_of_pos_right m hn)
      change Rounds (roundWithAccuracy _ .positive (m * n) (e + f) .exact) (m * 2 ^ e * (n * 2 ^ f))
      rw [← hprod] at hr ⊢
      exact roundWithAccuracy_rounds hlong le_rfl (by linarith) hr _

lemma amount_le (hm : m.log2 = 52) (he : e ≤ 971) : (m : ℝ) * 2 ^ e ≤ 2 ^ (1024 : ℤ) := by
  have hu : (m : ℝ) ≤ 2 ^ (53 : ℤ) := by exact_mod_cast (two_pow_le_of_log2 hm).2.le
  calc (m : ℝ) * 2 ^ e ≤ 2 ^ (53 : ℤ) * 2 ^ (971 : ℤ) :=
        mul_le_mul hu (zpow_le_zpow_right₀ one_le_two he) (by positivity) (by positivity)
    _ = 2 ^ (1024 : ℤ) := by
        rw [← zpow_add₀ two_ne_zero]
        norm_num

lemma ranged_sqrt (hl : 2 ^ (-1022 : ℤ) ≤ r) (hu : r ≤ 2 ^ (1024 : ℤ)) : Ranged √r := by
  have hsq (i : ℤ) : ((2 : ℝ) ^ i) ^ 2 = 2 ^ (i * 2) := by rw [← zpow_natCast, ← zpow_mul, Nat.cast_two]
  refine ⟨Real.le_sqrt_of_sq_le (le_trans ?_ hl), Real.sqrt_le_iff.mpr ⟨by positivity, hu.trans ?_⟩⟩
  · rw [hsq]
    exact zpow_le_zpow_right₀ one_le_two (by norm_num)
  · rw [hsq]
    exact zpow_le_zpow_right₀ one_le_two (by norm_num)

def rootExponent (e : ℤ) : ℤ := (54 + e) / 2 - 53

def rootMantissa (m : ℕ) (e : ℤ) : ℕ := m <<< (e - 2 * rootExponent e).toNat

lemma sqrtCore_eq (hm : m.log2 = 52) (he : -1074 ≤ e) : ∃ a,
    sqrtCore Format.binary64 m e = ((rootMantissa m e).sqrt, rootExponent e, a) := by
  have htarget : Format.binary64.targetExponent ((totalExponent m e + 1).ediv 2) = rootExponent e := by
    have hdiv : (totalExponent m e + 1).ediv 2 = (54 + e) / 2 := by
      rw [totalExponent, hm]
      exact congrArg (Int.ediv · 2) (by omega)
    rw [hdiv, rootExponent]
    simp only [Format.targetExponent, Format.mantissaBits, Format.minExponent]
    omega
  have hmin : min (e.ediv 2) (rootExponent e) = rootExponent e := min_eq_right (by
    change (54 + e) / 2 - 53 ≤ e / 2
    omega)
  simp only [sqrtCore, htarget, hmin]
  exact ⟨_, rfl⟩

lemma rootMantissa_amount (m : ℕ) (e : ℤ) :
    (rootMantissa m e : ℝ) * (2 ^ rootExponent e * 2 ^ rootExponent e) = m * 2 ^ e := by
  rw [← zpow_add₀ two_ne_zero, ← two_mul]
  exact shiftLeft_amount (by rw [rootExponent]; omega)

lemma le_log2_sqrt (hm : 0 < m) (hlog : m.log2 = 52) : 52 ≤ (rootMantissa m e).sqrt.log2 := by
  have hlog : 104 ≤ (rootMantissa m e).log2 := by
    rw [rootMantissa, Nat.shiftLeft_eq, Whole.log2_scaled hm, hlog, rootExponent]
    omega
  have hne : rootMantissa m e ≠ 0 := by
    intro h
    simp [h] at hlog
  have hle : 2 ^ 52 * 2 ^ 52 ≤ rootMantissa m e := by
    rw [← pow_add]
    exact (Nat.le_log2 hne).mp hlog
  have hsqrt : 2 ^ 52 ≤ (rootMantissa m e).sqrt := Nat.le_sqrt.mpr hle
  exact (Nat.le_log2 (by omega)).mpr hsqrt

lemma Canonical.sqrt_rounds (hu : Canonical u) :
    Rounds (UnpackedFloat.sqrt Format.binary64 u) √(amount u) := by
  cases hu with
  | zero =>
    have hzero : √(amount (.zero .positive)) = 0 := Real.sqrt_zero
    rw [hzero]
    exact Canonical.zero.rounds_self
  | @finite m e hm hlog hl hu =>
    obtain ⟨a, hcore⟩ := sqrtCore_eq hlog hl
    have hroot : √(m * 2 ^ e : ℝ) = √(rootMantissa m e : ℝ) * 2 ^ rootExponent e := by
      rw [← rootMantissa_amount, Real.sqrt_mul (Nat.cast_nonneg _), Real.sqrt_mul_self (by positivity)]
    have hr : Ranged √(m * 2 ^ e : ℝ) := ranged_sqrt (le_amount hlog hl) (amount_le hlog hu)
    change Rounds _ √(m * 2 ^ e : ℝ)
    rw [hroot] at hr ⊢
    simp only [UnpackedFloat.sqrt, hcore]
    exact roundWithAccuracy_rounds (le_log2_sqrt hm hlog) Real.nat_sqrt_le_real_sqrt
      Real.real_sqrt_le_nat_sqrt_succ hr _

end Operations

section Order

lemma amount_lt_of_exponent_lt (hm : m.log2 = 52) (hn : n.log2 = 52) (h : e < f) :
    (m : ℝ) * 2 ^ e < n * 2 ^ f := by
  have hlt : (m : ℝ) < 2 ^ (53 : ℤ) := by exact_mod_cast (two_pow_le_of_log2 hm).2
  have hle : (2 : ℝ) ^ (52 : ℤ) ≤ n := by exact_mod_cast (two_pow_le_of_log2 hn).1
  calc (m : ℝ) * 2 ^ e < 2 ^ (53 : ℤ) * 2 ^ e := mul_lt_mul_of_pos_right hlt (by positivity)
    _ = 2 ^ (52 : ℤ) * 2 ^ (e + 1) := by
        rw [← zpow_add₀ two_ne_zero, ← zpow_add₀ two_ne_zero]
        congr 1
        ring
    _ ≤ n * 2 ^ f :=
        mul_le_mul hle (zpow_le_zpow_right₀ one_le_two (by omega)) (by positivity) (by positivity)

lemma amount_lt_iff (hm : m.log2 = 52) (hn : n.log2 = 52) :
    (m : ℝ) * 2 ^ e < n * 2 ^ f ↔ e < f ∨ e = f ∧ m < n := by
  rcases lt_trichotomy e f with h | rfl | h
  · exact iff_of_true (amount_lt_of_exponent_lt hm hn h) (Or.inl h)
  · rw [mul_lt_mul_iff_left₀ (by positivity), Nat.cast_lt]
    simp
  · exact iff_of_false (amount_lt_of_exponent_lt hn hm h).not_gt (by omega)

lemma amount_pos (hm : 0 < m) : (0 : ℝ) < m * 2 ^ e := by positivity

lemma Canonical.compare_eq_lt (hu : Canonical u) (hv : Canonical v) :
    u.compare v = some .lt ↔ amount u < amount v := by
  cases hu with
  | zero =>
    cases hv with
    | zero => exact iff_of_false (by decide) (lt_irrefl _)
    | finite hn => exact iff_of_true rfl (amount_pos hn)
  | @finite m e hm hlog =>
    cases hv with
    | zero => exact iff_of_false (by simp [UnpackedFloat.compare]) (amount_pos hm).not_gt
    | @finite n f hn hlog' =>
      change some ((compare e f).then (compare m n)) = some .lt ↔ (m : ℝ) * 2 ^ e < n * 2 ^ f
      rw [amount_lt_iff hlog hlog', Option.some_inj, Ordering.then_eq_lt, Int.compare_eq_lt,
        Int.compare_eq_eq, Nat.compare_eq_lt]

def code : UnpackedFloat → ℕ
  | .finite _ m e _ => (e + 1075).toNat * 2 ^ 52 + m % 2 ^ 52
  | _ => 0

lemma Canonical.code_lt_iff (hu : Canonical u) (hv : Canonical v) : code u < code v ↔ amount u < amount v := by
  cases hu with
  | zero =>
    cases hv with
    | zero => exact iff_of_false (lt_irrefl _) (lt_irrefl _)
    | @finite n f hn hlog hl hu =>
      refine iff_of_true ?_ (amount_pos hn)
      change 0 < (f + 1075).toNat * 2 ^ 52 + _
      omega
  | @finite m e hm hlog hl hu =>
    cases hv with
    | zero => exact iff_of_false (Nat.not_lt_zero _) (amount_pos hm).not_gt
    | @finite n f hn hlog' hl' hu' =>
      have hm' := two_pow_le_of_log2 hlog
      have hn' := two_pow_le_of_log2 hlog'
      change (e + 1075).toNat * 2 ^ 52 + m % 2 ^ 52 < (f + 1075).toNat * 2 ^ 52 + n % 2 ^ 52 ↔
        (m : ℝ) * 2 ^ e < n * 2 ^ f
      rw [amount_lt_iff hlog hlog']
      omega

lemma Canonical.isNaN_eq_false (hu : Canonical u) : u.isNaN = false := by
  cases hu <;> rfl

lemma Canonical.code_lt_half (hu : Canonical u) : code u < Word.half := by
  have hhalf : Word.half = 2 ^ 63 := rfl
  cases hu with
  | zero => decide
  | @finite m e hm hlog hl hu =>
    change (e + 1075).toNat * 2 ^ 52 + m % 2 ^ 52 < Word.half
    omega

end Order

section Pack

lemma pack_finite (hm : 0 < m) (hlog : m.log2 = 52) (hl : -1074 ≤ e) (hu : e ≤ 971) :
    UnpackedFloat.pack Format.binary64 (.finite .positive m e hm) =
      packComponents Format.binary64 .positive (BitVec.ofNat 11 (e + 1075).toNat)
        (BitVec.ofNat 52 (m % 2 ^ 52)) := by
  have he : (e + ((1023 : ℕ) : ℤ) + ((52 : ℕ) : ℤ)).toNat = (e + 1075).toNat := by
    omega
  have hbits : 52 + 1 = Format.binary64.mantissaBits := rfl
  have hfull : ¬ 2 ^ 11 ≤ (e + 1075).toNat + 1 := by omega
  have hmod : BitVec.ofNat 52 m = BitVec.ofNat 52 (m % 2 ^ 52) := by
    apply BitVec.eq_of_toNat_eq
    simp only [BitVec.toNat_ofNat, Nat.mod_mod]
  simp only [UnpackedFloat.pack, hlog, hbits, if_true, Whole.exponentBias_eq, he, if_neg hfull, hmod]

lemma Canonical.unpack_pack (h : Canonical u) : (Float.Model.pack u).unpack = u := by
  cases h with
  | zero => rfl
  | @finite m e hm hlog hl hu =>
    have hb := two_pow_le_of_log2 hlog
    have hs : (BitVec.ofNat 11 (e + 1075).toNat).toNat = (e + 1075).toNat := by
      rw [BitVec.toNat_ofNat]
      omega
    have hones : BitVec.ofNat 11 (e + 1075).toNat ≠ -1#11 := by
      intro h
      have hval := congrArg BitVec.toNat h
      rw [hs, show (-1#11).toNat = 2047 from rfl] at hval
      omega
    have hzero : BitVec.ofNat 11 (e + 1075).toNat ≠ 0#11 := by
      intro h
      have hval := congrArg BitVec.toNat h
      rw [hs, show (0#11).toNat = 0 from rfl] at hval
      omega
    have hm' : 2 ^ 52 + m % 2 ^ 52 = m := by omega
    have he : ((e + 1075).toNat : ℤ) - (((1023 : ℕ) : ℤ) + ((52 : ℕ) : ℤ)) = e := by omega
    change UnpackedFloat.unpack Format.binary64 (UnpackedFloat.pack Format.binary64 _) = _
    rw [pack_finite hm hlog hl hu, UnpackedFloat.unpack]
    simp only [unpackMantissa_packComponents, unpackExponent_packComponents, Whole.unpackSign_positive,
      hones, hzero, if_false, hs, Whole.toNat_implied (Nat.mod_lt m (Nat.two_pow_pos 52)), Sign.ofBitVec,
      if_true, Whole.exponentBias_eq, he, hm']

lemma Canonical.toBits_pack (h : Canonical u) : (Float.Model.pack u).toBits.toNat = code u := by
  cases h with
  | zero => rfl
  | @finite m e hm hlog hl hu =>
    change (UnpackedFloat.pack Format.binary64 _).toNat = (e + 1075).toNat * 2 ^ 52 + m % 2 ^ 52
    rw [pack_finite hm hlog hl hu]
    change (0#1 ++ BitVec.ofNat 11 (e + 1075).toNat ++ BitVec.ofNat 52 (m % 2 ^ 52)).toNat = _
    have he : (e + 1075).toNat % 2 ^ 11 = (e + 1075).toNat := Nat.mod_eq_of_lt (by omega)
    rw [BitVec.toNat_append, ← Nat.shiftLeft_add_eq_or_of_lt (BitVec.isLt _), BitVec.toNat_append]
    simp only [BitVec.toNat_ofNat, Nat.shiftLeft_eq, he, Nat.mod_mod]
    simp

end Pack

end Navigation.Rounding
