import Navigation.Plan
import Navigation.Priority
import Navigation.Proofs.Number.Whole

namespace Navigation.Cost

open Float.Model

noncomputable def toFloat (c : ℕ∞) : Float := if c = ⊤ then Plan.infinity else Float.ofNat c.toNat

def Exact (c : ℕ∞) : Prop := ∀ n : ℕ, c = n → n < 2 ^ 53

@[simp] lemma toFloat_top : toFloat ⊤ = Plan.infinity := if_pos rfl

@[simp] lemma toFloat_coe (n : ℕ) : toFloat n = Float.ofNat n := by simp [toFloat]

@[simp] lemma exact_top : Exact ⊤ := fun n h => (ENat.top_ne_natCast n h).elim

@[simp] lemma exact_coe {n : ℕ} : Exact n ↔ n < 2 ^ 53 :=
  ⟨fun h => h n rfl, fun h m hm => by rwa [← ENat.natCast_inj.mp hm]⟩

lemma exact_of_le {c d : ℕ∞} (h : Exact d) (hd : d ≠ ⊤) (hc : c ≤ d) : Exact c := by
  lift d to ℕ using hd
  lift c to ℕ using ne_top_of_le_ne_top (ENat.natCast_ne_top d) hc
  rw [exact_coe] at h ⊢
  exact (ENat.natCast_le_natCast.mp hc).trans_lt h

lemma unpack_infinity : Plan.infinity.toModel.unpack = .infinity .positive := rfl

lemma infinity_add {n : ℕ} (h : n < 2 ^ 53) : Plan.infinity + Float.ofNat n = Plan.infinity := by
  have hu : UnpackedFloat.add Format.binary64 (.infinity .positive) (Whole.unpacked n) =
      .infinity .positive := by
    rw [Whole.unpacked]
    split <;> rfl
  have hm : (Plan.infinity + Float.ofNat n).toModel = Plan.infinity.toModel := by
    change Float.Model.pack (UnpackedFloat.add _ _ _) = _
    rw [unpack_infinity, Whole.unpack_ofNat h, hu]
    rfl
  exact congrArg Float.ofModel hm

lemma toFloat_add {c : ℕ∞} {n : ℕ} (hn : n < 2 ^ 53) (h : Exact (c + n)) :
    toFloat c + Float.ofNat n = toFloat (c + n) := by
  cases c with
  | top => simpa using infinity_add hn
  | coe m =>
    have hm : m + n < 2 ^ 53 := h (m + n) (by push_cast; rfl)
    rw [toFloat_coe, Whole.add_ofNat hm, ← toFloat_coe]
    push_cast
    rfl

lemma compare_toFloat {c d : ℕ∞} (hc : Exact c) (hd : Exact d) :
    (toFloat c).toModel.unpack.compare (toFloat d).toModel.unpack = some (compare c d) := by
  cases c with
  | top =>
    cases d with
    | top =>
      rw [toFloat_top, unpack_infinity, compare_eq_iff_eq.mpr rfl]
      rfl
    | coe n =>
      have h : compare (⊤ : ℕ∞) n = .gt := compare_gt_iff_gt.mpr (ENat.natCast_lt_top n)
      rw [toFloat_top, toFloat_coe, unpack_infinity, Whole.unpack_ofNat (hd n rfl), h, Whole.unpacked]
      split <;> rfl
  | coe m =>
    cases d with
    | top =>
      have h : compare (m : ℕ∞) ⊤ = .lt := compare_lt_iff_lt.mpr (ENat.natCast_lt_top m)
      rw [toFloat_top, toFloat_coe, unpack_infinity, Whole.unpack_ofNat (hc m rfl), h, Whole.unpacked]
      split <;> rfl
    | coe n =>
      have h : compare (m : ℕ∞) n = compare m n := by
        rcases lt_trichotomy m n with h | rfl | h
        · rw [compare_lt_iff_lt.mpr h, compare_lt_iff_lt.mpr (ENat.natCast_lt_natCast.mpr h)]
        · rw [compare_eq_iff_eq.mpr rfl, compare_eq_iff_eq.mpr rfl]
        · rw [compare_gt_iff_gt.mpr h, compare_gt_iff_gt.mpr (ENat.natCast_lt_natCast.mpr h)]
      rw [toFloat_coe, toFloat_coe, Whole.unpack_ofNat (hc m rfl), Whole.unpack_ofNat (hd n rfl),
        Whole.compare_unpacked, h]

lemma toFloat_lt {c d : ℕ∞} (hc : Exact c) (hd : Exact d) : toFloat c < toFloat d ↔ c < d := by
  have h : toFloat c < toFloat d ↔
      ((toFloat c).toModel.unpack.compare (toFloat d).toModel.unpack == some .lt) = true :=
    decide_eq_true_iff
  rw [h, compare_toFloat hc hd, ← compare_lt_iff_lt]
  simp

lemma toFloat_min {c d : ℕ∞} (hc : Exact c) (hd : Exact d) :
    (if toFloat c < toFloat d then toFloat c else toFloat d) = toFloat (min c d) := by
  split
  · rename_i h
    rw [min_eq_left ((toFloat_lt hc hd).mp h).le]
  · rename_i h
    rw [toFloat_lt hc hd, not_lt] at h
    rw [min_eq_right h]

lemma toFloat_beq {c d : ℕ∞} (hc : Exact c) (hd : Exact d) :
    (toFloat c == toFloat d) = true ↔ c = d := by
  have h : (toFloat c == toFloat d) =
      ((toFloat c).toModel.unpack.compare (toFloat d).toModel.unpack == some .eq) := rfl
  rw [h, compare_toFloat hc hd, ← compare_eq_iff_eq (a := c)]
  simp

lemma toFloat_injective {c d : ℕ∞} (hc : Exact c) (hd : Exact d) (h : toFloat c = toFloat d) :
    c = d := by
  rw [← toFloat_beq hc hd, h, toFloat_beq hd hd]

noncomputable def value (x : Float) : ℕ∞ :=
  if h : ∃ n : ℕ, n < 2 ^ 53 ∧ x = Float.ofNat n then (h.choose : ℕ) else ⊤

lemma value_toFloat {c : ℕ∞} (hc : Exact c) : value (toFloat c) = c := by
  by_cases h : ∃ n : ℕ, n < 2 ^ 53 ∧ toFloat c = Float.ofNat n
  · obtain ⟨hn, he⟩ := h.choose_spec
    rw [value, dif_pos h]
    exact toFloat_injective (exact_coe.mpr hn) hc ((toFloat_coe _).trans he.symm)
  · rw [value, dif_neg h]
    cases c with
    | top => rfl
    | coe n => exact (h ⟨n, hc n rfl, toFloat_coe n⟩).elim

noncomputable def code (c : ℕ∞) : ℕ := if c = ⊤ then 2047 * 2 ^ 52 else Whole.code c.toNat

lemma toBits_toFloat {c : ℕ∞} (hc : Exact c) : (toFloat c).toBits.toNat = code c := by
  cases c with
  | top => rw [code, if_pos rfl, toFloat_top]; rfl
  | coe n => rw [code, if_neg (ENat.natCast_ne_top n), toFloat_coe, Whole.toBits_ofNat (hc n rfl)]; rfl

lemma isNaN_toFloat {c : ℕ∞} (hc : Exact c) : (toFloat c).isNaN = false := by
  cases c with
  | top => rw [toFloat_top]; rfl
  | coe n => rw [toFloat_coe, Whole.isNaN_ofNat (hc n rfl)]

lemma code_lt {c d : ℕ∞} (hc : Exact c) (hd : Exact d) (h : c < d) : code c < code d := by
  lift c to ℕ using h.ne_top
  rw [code, if_neg (ENat.natCast_ne_top c), ENat.toNat_natCast]
  cases d with
  | top =>
    rw [code, if_pos rfl]
    exact Whole.code_lt_infinity (hc c rfl)
  | coe n =>
    rw [code, if_neg (ENat.natCast_ne_top n), ENat.toNat_natCast]
    exact Whole.code_lt (ENat.natCast_lt_natCast.mp h) (hd n rfl)

lemma code_le {c : ℕ∞} (hc : Exact c) : code c ≤ 2047 * 2 ^ 52 := by
  cases c with
  | top => rw [code, if_pos rfl]
  | coe n =>
    rw [code, if_neg (ENat.natCast_ne_top n), ENat.toNat_natCast]
    exact (Whole.code_lt_infinity (hc n rfl)).le

lemma rank_toFloat {c : ℕ∞} (hc : Exact c) :
    (Priority.ofFloat (toFloat c)).rank = Word.half + code c := by
  have hle := code_le hc
  have hlt : code c < Word.half := by
    have hhalf : Word.half = 2 ^ 63 := rfl
    omega
  rw [Priority.ofFloat, isNaN_toFloat hc, Priority.rank]
  simp only [Bool.false_eq_true, if_false, toBits_toFloat hc, if_pos hlt]

lemma rank_lt {c d : ℕ∞} (hc : Exact c) (hd : Exact d) :
    (Priority.ofFloat (toFloat c)).rank < (Priority.ofFloat (toFloat d)).rank ↔ c < d := by
  rw [rank_toFloat hc, rank_toFloat hd, Nat.add_lt_add_iff_left]
  refine ⟨fun h => lt_of_not_ge fun hle => ?_, code_lt hc hd⟩
  rcases hle.lt_or_eq with hlt | rfl
  · exact (code_lt hd hc hlt).not_gt h
  · exact h.ne rfl

lemma toFloat_ofFloat {n : ℕ} (h : n < 2 ^ 53) :
    (Priority.ofFloat (Float.ofNat n)).toFloat = Float.ofNat n := by
  rw [Priority.ofFloat, Whole.isNaN_ofNat h]
  exact Whole.ofBits_toBits h

attribute [irreducible] toFloat value

end Navigation.Cost
