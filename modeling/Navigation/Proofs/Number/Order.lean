import Mathlib
import Navigation.Proofs.Number.Whole

/-! The order of the doubles that are numbers. -/

namespace Navigation.Number

open Float.Model UnpackedFloat

def level : UnpackedFloat → ℤ ×ₗ ℤ ×ₗ ℤ
  | .infinity s => toLex (s.apply 2, toLex (0, 0))
  | .notANumber | .zero _ => toLex (0, toLex (0, 0))
  | .finite s m e _ => toLex (s.apply 1, toLex (s.apply e, s.apply m))

lemma compare_sign (s t : Sign) : compare s t = compare (s.apply 2) (t.apply 2) := by
  cases s <;> cases t <;> rfl

lemma compare_eq_lt (u v : UnpackedFloat) :
    u.compare v = some .lt ↔ u.isNaN = false ∧ v.isNaN = false ∧ level u < level v := by
  -- only finite numbers of one sign compare by more than their kinds
  rcases u with ⟨_ | _⟩ | _ | _ | ⟨_ | _, m, e, hm⟩ <;> rcases v with ⟨_ | _⟩ | _ | _ | ⟨_ | _, n, f, hn⟩ <;>
    simp [UnpackedFloat.compare, UnpackedFloat.isNaN, level, Prod.Lex.toLex_lt_toLex, Sign.apply, compare_sign,
      Ordering.then_eq_lt, Ordering.then_eq_gt, Int.compare_eq_lt, Int.compare_eq_gt, Nat.compare_eq_lt,
      Nat.compare_eq_gt]

lemma compare_eq_eq (u v : UnpackedFloat) :
    u.compare v = some .eq ↔ u.isNaN = false ∧ v.isNaN = false ∧ level u = level v := by
  rcases u with ⟨_ | _⟩ | _ | _ | ⟨_ | _, m, e, hm⟩ <;> rcases v with ⟨_ | _⟩ | _ | _ | ⟨_ | _, n, f, hn⟩ <;>
    simp [UnpackedFloat.compare, UnpackedFloat.isNaN, level, Sign.apply, compare_sign]

inductive Unsigned : UnpackedFloat → Prop where
  | infinity : Unsigned (.infinity .positive)
  | zero : Unsigned (.zero .positive)
  | finite {m : ℕ} {e : ℤ} (hm : 0 < m) : Unsigned (.finite .positive m e hm)

variable {u : UnpackedFloat}

lemma Unsigned.isNaN_eq_false (h : Unsigned u) : u.isNaN = false := by
  cases h <;> rfl

lemma Unsigned.level_nonneg (h : Unsigned u) : level (.zero .positive) ≤ level u := by
  cases h <;> simp [level, Prod.Lex.toLex_le_toLex, Sign.apply]

lemma unsigned_of_level_pos (h : level (.zero .positive) < level u) : Unsigned u := by
  cases u with
  | notANumber => exact absurd h (lt_irrefl _)
  | zero => exact absurd h (lt_irrefl _)
  | infinity s =>
    cases s with
    | positive => exact .infinity
    | negative => simp [level, Prod.Lex.toLex_lt_toLex, Sign.apply] at h
  | finite s m e hm =>
    cases s with
    | positive => exact .finite hm
    | negative => simp [level, Prod.Lex.toLex_lt_toLex, Sign.apply] at h

lemma unsigned_abs (h : u.isNaN = false) : Unsigned u.abs := by
  cases u with
  | notANumber => cases h
  | infinity => exact .infinity
  | zero => exact .zero
  | finite s m e hm => exact .finite hm

lemma Unsigned.sqrt (h : Unsigned u) : Unsigned (u.sqrt Format.binary64) := by
  cases h with
  | infinity => exact .infinity
  | zero => exact .zero
  | finite hm =>
    simp only [UnpackedFloat.sqrt, roundWithAccuracy]
    split
    · exact .zero
    · exact .finite _

lemma unsigned_unpack {e : BitVec 11} {m : BitVec 52} (h : e = -1#11 → m = 0#52) :
    Unsigned (UnpackedFloat.unpack Format.binary64 (packComponents Format.binary64 .positive e m)) := by
  have hsign : Sign.ofBitVec (@unpackSign Format.binary64 (packComponents Format.binary64 .positive e m)) =
      .positive := by
    rw [Whole.unpackSign_positive]
    rfl
  simp only [UnpackedFloat.unpack, unpackMantissa_packComponents, unpackExponent_packComponents, hsign]
  split
  · rename_i he
    rw [if_pos (h he)]
    exact .infinity
  · split
    · split
      · exact .zero
      · exact .finite _
    · exact .finite _

lemma Unsigned.unpack_pack (h : Unsigned u) : Unsigned (Float.Model.pack u).unpack := by
  change Unsigned (UnpackedFloat.unpack Format.binary64 (UnpackedFloat.pack Format.binary64 u))
  cases h with
  | infinity => exact unsigned_unpack fun _ => rfl
  | zero => exact unsigned_unpack fun _ => rfl
  | @finite m e hm =>
    simp only [UnpackedFloat.pack]
    split
    · exact unsigned_unpack fun _ => rfl
    · rename_i hfull
      split
      · -- the exponent is less than that of the infinite numbers
        refine unsigned_unpack fun he => ?_
        have hones : (-1#11).toNat = 2047 := rfl
        have hval := congrArg BitVec.toNat he
        rw [BitVec.toNat_ofNat, hones] at hval
        change ¬2 ^ 11 ≤ _ at hfull
        change _ % 2 ^ 11 = _ at hval
        omega
      · refine unsigned_unpack fun he => absurd he (by decide)

variable {x y : Float}

lemma lt_iff : x < y ↔
    x.isNaN = false ∧ y.isNaN = false ∧ level x.toModel.unpack < level y.toModel.unpack := by
  have h : x < y ↔ (x.toModel.unpack.compare y.toModel.unpack == some .lt) = true := decide_eq_true_iff
  rw [h, beq_iff_eq, compare_eq_lt]
  rfl

lemma beq_iff : (x == y) = true ↔
    x.isNaN = false ∧ y.isNaN = false ∧ level x.toModel.unpack = level y.toModel.unpack := by
  have h : (x == y) = (x.toModel.unpack.compare y.toModel.unpack == some .eq) := rfl
  rw [h, beq_iff_eq, compare_eq_eq]
  rfl

lemma le_iff : x ≤ y ↔
    x.isNaN = false ∧ y.isNaN = false ∧ level x.toModel.unpack ≤ level y.toModel.unpack := by
  have h : x ≤ y ↔ (x.toModel.unpack.compare y.toModel.unpack).any (·.isLE) = true := decide_eq_true_iff
  have hcases (o : Option Ordering) : o.any (·.isLE) = true ↔ o = some .lt ∨ o = some .eq := by
    rcases o with _ | _ | _ | _ <;> decide
  rw [h, hcases, compare_eq_lt, compare_eq_eq, ← and_or_left, ← and_or_left, ← le_iff_lt_or_eq]
  rfl

lemma lt_of_lt_of_le {z : Float} (hxy : x < y) (hyz : y ≤ z) : x < z := by
  rw [lt_iff] at hxy ⊢
  rw [le_iff] at hyz
  exact ⟨hxy.1, hyz.2.1, hxy.2.2.trans_le hyz.2.2⟩

lemma beq_self (h : x.isNaN = false) : (x == x) = true := beq_iff.mpr ⟨h, h, rfl⟩

def Positive (x : Float) : Prop := Unsigned x.toModel.unpack

lemma Positive.isNaN_eq_false (h : Positive x) : x.isNaN = false := Unsigned.isNaN_eq_false h

lemma Positive.nonneg (h : Positive x) : 0 ≤ x := le_iff.mpr ⟨rfl, h.isNaN_eq_false, h.level_nonneg⟩

lemma Positive.lt_iff (hx : Positive x) (hy : Positive y) :
    x < y ↔ level x.toModel.unpack < level y.toModel.unpack := by
  rw [Number.lt_iff, and_iff_right hx.isNaN_eq_false, and_iff_right hy.isNaN_eq_false]

lemma Positive.le_iff (hx : Positive x) (hy : Positive y) :
    x ≤ y ↔ level x.toModel.unpack ≤ level y.toModel.unpack := by
  rw [Number.le_iff, and_iff_right hx.isNaN_eq_false, and_iff_right hy.isNaN_eq_false]

lemma positive_of_pos (h : 0 < x) : Positive x := unsigned_of_level_pos (lt_iff.mp h).2.2

lemma positive_zero : Positive 0 := Unsigned.zero

lemma positive_abs (h : x.isNaN = false) : Positive x.abs := (unsigned_abs h).unpack_pack

lemma Positive.sqrt (h : Positive x) : Positive x.sqrt := (Unsigned.sqrt h).unpack_pack

end Navigation.Number
