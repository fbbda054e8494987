import Mathlib
import Navigation.Proofs.Number.Order

namespace Navigation.Number

open Float.Model UnpackedFloat

section

variable (format : Format) (u v : UnpackedFloat)

lemma sign_mul_comm (s t : Sign) : s * t = t * s := by
  cases s <;> cases t <;> rfl

lemma unpacked_mul_comm : u.mul format v = v.mul format u := by
  cases u <;> cases v <;> simp [UnpackedFloat.mul, sign_mul_comm, Nat.mul_comm, Int.add_comm]

lemma abs_round (s t : Sign) (m : ℕ) (e : ℤ) :
    (UnpackedFloat.round format s m e).abs = (UnpackedFloat.round format t m e).abs := by
  simp only [UnpackedFloat.round, roundWithAccuracy]
  split <;> rfl

lemma abs_normalize_neg (m e : ℤ) :
    (UnpackedFloat.normalize format (-m) e .positive).abs = (UnpackedFloat.normalize format m e .positive).abs := by
  rcases lt_trichotomy m 0 with h | rfl | h
  · have hm : compare m 0 = .lt := Int.compare_eq_lt.mpr h
    have hneg : compare (-m) 0 = .gt := Int.compare_eq_gt.mpr (neg_pos.mpr h)
    simp only [UnpackedFloat.normalize, hm, hneg]
    exact abs_round ..
  · rfl
  · have hm : compare m 0 = .gt := Int.compare_eq_gt.mpr h
    have hneg : compare (-m) 0 = .lt := Int.compare_eq_lt.mpr (neg_lt_zero.mpr h)
    simp only [UnpackedFloat.normalize, hm, hneg, neg_neg]
    exact abs_round ..

lemma unpacked_abs_sub_comm : (u.sub format v).abs = (v.sub format u).abs := by
  cases u with
  | notANumber => cases v <;> rfl
  | infinity s =>
    cases v with
    | infinity t => cases s <;> cases t <;> rfl
    | _ => rfl
  | zero s =>
    cases v with
    | zero t => cases s <;> cases t <;> rfl
    | _ => rfl
  | finite s m e hm =>
    cases v with
    | finite t n f hn =>
      simp only [UnpackedFloat.sub, min_comm f e]
      rw [← neg_sub]
      exact abs_normalize_neg ..
    | _ => rfl

lemma unpacked_sub_self : u.sub format u = .notANumber ∨ u.sub format u = .zero .positive := by
  cases u with
  | notANumber => exact .inl rfl
  | infinity s => cases s <;> exact .inl rfl
  | zero s => cases s <;> exact .inr rfl
  | finite s m e hm =>
    refine .inr ?_
    simp only [UnpackedFloat.sub, Int.sub_self]
    rfl

lemma isNaN_round (s : Sign) (m : ℕ) (e : ℤ) : (UnpackedFloat.round format s m e).isNaN = false := by
  simp only [UnpackedFloat.round, roundWithAccuracy]
  split <;> rfl

variable {u v} in
lemma unpacked_isNaN_sub_eq_false (hu : u.isFinite = true) (hv : v.isFinite = true) :
    (u.sub format v).isNaN = false := by
  cases u with
  | notANumber | infinity => cases hu
  | zero s =>
    cases v with
    | notANumber | infinity => cases hv
    | zero t => cases s <;> cases t <;> rfl
    | finite t n f hn => rfl
  | finite s m e hm =>
    cases v with
    | notANumber | infinity => cases hv
    | zero t => rfl
    | finite t n f hn =>
      simp only [UnpackedFloat.sub, UnpackedFloat.normalize]
      split
      · exact isNaN_round ..
      · rfl
      · exact isNaN_round ..

@[simp] lemma unpacked_isNaN_abs : u.abs.isNaN = u.isNaN := by
  cases u <;> rfl

end

lemma abs_unpack_components (s : Sign) (e : BitVec 11) (m : BitVec 52) :
    (UnpackedFloat.unpack Format.binary64 (packComponents Format.binary64 s e m)).abs =
      (UnpackedFloat.unpack Format.binary64 (packComponents Format.binary64 .positive e m)).abs := by
  simp only [UnpackedFloat.unpack, unpackMantissa_packComponents, unpackExponent_packComponents]
  split
  · split <;> simp only [UnpackedFloat.abs]
  · split
    · split <;> simp only [UnpackedFloat.abs]
    · simp only [UnpackedFloat.abs]

lemma abs_unpack_pack (u : UnpackedFloat) :
    (Float.Model.pack u).unpack.abs = (Float.Model.pack u.abs).unpack.abs := by
  change (UnpackedFloat.unpack Format.binary64 (UnpackedFloat.pack Format.binary64 u)).abs =
    (UnpackedFloat.unpack Format.binary64 (UnpackedFloat.pack Format.binary64 u.abs)).abs
  cases u with
  | notANumber => rfl
  | infinity s => exact abs_unpack_components ..
  | zero s => exact abs_unpack_components ..
  | finite s m e hm =>
    have habs : (UnpackedFloat.finite s m e hm).abs = .finite .positive m e hm := rfl
    rw [habs, UnpackedFloat.pack, UnpackedFloat.pack]
    dsimp only
    split
    · exact abs_unpack_components ..
    · split
      · exact abs_unpack_components ..
      · exact abs_unpack_components ..

lemma isNaN_pack (u : UnpackedFloat) : (Float.Model.pack u).unpack.isNaN = u.isNaN := by
  rw [← unpacked_isNaN_abs, abs_unpack_pack, unpacked_isNaN_abs]
  cases h : u.isNaN with
  | false => exact (unsigned_abs h).unpack_pack.isNaN_eq_false
  | true =>
    cases u with
    | notANumber => rfl
    | _ => cases h

variable {x y : Float}

lemma mul_swap (x y : Float) : x * y = y * x :=
  congrArg (fun u => Float.ofModel (Float.Model.pack u))
    (unpacked_mul_comm Format.binary64 x.toModel.unpack y.toModel.unpack)

lemma abs_sub_swap (x y : Float) : (x - y).abs = (y - x).abs := by
  have habs (x y : Float) : (x - y).abs = Float.ofModel (Float.Model.pack
      (Float.Model.pack (x.toModel.unpack.sub Format.binary64 y.toModel.unpack).abs).unpack.abs) :=
    congrArg (fun u => Float.ofModel (Float.Model.pack u)) (abs_unpack_pack _)
  rw [habs, habs, unpacked_abs_sub_comm]

lemma isNaN_abs (x : Float) : x.abs.isNaN = x.isNaN :=
  (isNaN_pack _).trans (unpacked_isNaN_abs _)

lemma isNaN_sub_swap (x y : Float) : (x - y).isNaN = (y - x).isNaN := by
  rw [← isNaN_abs (x - y), abs_sub_swap, isNaN_abs]

lemma isNaN_sub_eq_false (hx : x.isFinite = true) (hy : y.isFinite = true) : (x - y).isNaN = false :=
  (isNaN_pack _).trans (unpacked_isNaN_sub_eq_false _ hx hy)

lemma abs_sub_self_le_or (h : 0 ≤ y) : (x - x).abs ≤ y ∨ (x - x).isNaN = true := by
  rcases unpacked_sub_self Format.binary64 x.toModel.unpack with hx | hx
  · right
    exact (isNaN_pack _).trans (congrArg UnpackedFloat.isNaN hx)
  · left
    have hzero : (x - x).abs = 0 := by
      change Float.ofModel (Float.Model.pack
        (Float.Model.pack (x.toModel.unpack.sub Format.binary64 x.toModel.unpack)).unpack.abs) = 0
      rw [hx]
      rfl
    rwa [hzero]

lemma not_lt_iff_le_or (h : x.isNaN = false) : ¬x < y ↔ y ≤ x ∨ y.isNaN = true := by
  rw [lt_iff, le_iff, and_iff_right h, and_iff_right h]
  cases y.isNaN with
  | true => exact iff_of_true (fun hlt => Bool.noConfusion hlt.1) (.inr rfl)
  | false => rw [and_iff_right rfl, and_iff_right rfl, not_lt, or_iff_left Bool.false_ne_true]

end Navigation.Number
