import Navigation.Proofs.Number.Cost

namespace Navigation

namespace Cost

open Float.Model

def limit : ℕ := 2 ^ 53

def Held (c : ℕ∞) : Prop := Exact c ∨ c = limit

lemma held_zero : Held 0 := Or.inl (exact_coe.mpr (by norm_num))

lemma held_top : Held ⊤ := Or.inl exact_top

lemma held_coe {n : ℕ} : Held n ↔ n ≤ limit := by
  rw [Held, exact_coe, Nat.cast_inj, le_iff_lt_or_eq, limit]

lemma unpack_limit :
    (Float.ofNat limit).toModel.unpack = .finite .positive (2 ^ 52) 1 (by norm_num) := rfl

lemma compare_limit {n : ℕ} (h : n < limit) :
    (Whole.unpacked n).compare (Float.ofNat limit).toModel.unpack = some .lt ∧
      (Float.ofNat limit).toModel.unpack.compare (Whole.unpacked n) = some .gt := by
  rw [unpack_limit]
  rcases Nat.eq_zero_or_pos n with rfl | hn
  · exact ⟨rfl, rfl⟩
  have he : Whole.exponent n < 1 := by
    have := Whole.log2_le h
    rw [Whole.exponent]
    omega
  rw [Whole.unpacked_of_pos hn]
  simp only [UnpackedFloat.compare]
  rw [Int.compare_eq_lt.mpr he, Int.compare_eq_gt.mpr he]
  exact ⟨rfl, rfl⟩

lemma compare_toFloat_limit {c : ℕ∞} (hc : Exact c) :
    (toFloat c).toModel.unpack.compare (toFloat limit).toModel.unpack =
        some (compare c (limit : ℕ∞)) ∧
      (toFloat limit).toModel.unpack.compare (toFloat c).toModel.unpack =
        some (compare (limit : ℕ∞) c) := by
  cases c with
  | top =>
    have hgt : compare (⊤ : ℕ∞) limit = .gt := compare_gt_iff_gt.mpr (ENat.natCast_lt_top limit)
    have hlt : compare (limit : ℕ∞) ⊤ = .lt := compare_lt_iff_lt.mpr (ENat.natCast_lt_top limit)
    rw [hgt, hlt, toFloat_top, toFloat_coe, unpack_limit, unpack_infinity]
    exact ⟨rfl, rfl⟩
  | coe n =>
    have hn : n < limit := hc n rfl
    have hlt : compare (n : ℕ∞) limit = .lt := compare_lt_iff_lt.mpr (Nat.cast_lt.mpr hn)
    have hgt : compare (limit : ℕ∞) n = .gt := compare_gt_iff_gt.mpr (Nat.cast_lt.mpr hn)
    rw [hlt, hgt, toFloat_coe, toFloat_coe, Whole.unpack_ofNat hn]
    exact compare_limit hn

lemma compare_held {c d : ℕ∞} (hc : Held c) (hd : Held d) :
    (toFloat c).toModel.unpack.compare (toFloat d).toModel.unpack = some (compare c d) := by
  rcases hc with hc | rfl
  · rcases hd with hd | rfl
    · exact compare_toFloat hc hd
    · exact (compare_toFloat_limit hc).1
  · rcases hd with hd | rfl
    · exact (compare_toFloat_limit hd).2
    · rw [toFloat_coe, unpack_limit, compare_eq_iff_eq.mpr rfl]
      rfl

noncomputable def next (c : ℕ∞) : ℕ∞ := if c = limit then limit else c + 1

lemma held_next {c : ℕ∞} (h : Held c) : Held (next c) := by
  rw [next]
  split
  · exact Or.inr rfl
  · rename_i hne
    have hc := h.resolve_right hne
    cases c with
    | top => exact held_top
    | coe n => exact held_coe.mpr (hc n rfl)

lemma toFloat_next {c : ℕ∞} (h : Held c) : toFloat c + Float.ofNat 1 = toFloat (next c) := by
  rw [next]
  split
  · rename_i hc
    rw [hc, toFloat_coe]
    rfl
  · rename_i hne
    have hc := h.resolve_right hne
    cases c with
    | top => exact toFloat_add (by norm_num) exact_top
    | coe n =>
      have hn : n < limit := hc n rfl
      rcases Nat.lt_or_eq_of_le (Nat.succ_le_of_lt hn) with hlt | heq
      · exact toFloat_add (by norm_num) (exact_coe.mpr hlt)
      · obtain rfl : n = 2 ^ 53 - 1 := Nat.eq_sub_of_add_eq heq
        change toFloat (2 ^ 53 - 1 : ℕ) + Float.ofNat 1 = toFloat (2 ^ 53 : ℕ)
        rw [toFloat_coe, toFloat_coe]
        rfl

lemma next_mono : Monotone next := by
  intro c d hcd
  rw [next, next]
  split
  · rename_i hc
    split
    · exact le_rfl
    · exact (hc ▸ hcd).trans le_self_add
  · rename_i hc
    split
    · rename_i hd
      rw [← hd]
      exact Order.add_one_le_of_lt (hcd.lt_of_ne fun he => hc (he.trans hd))
    · exact add_le_add_left hcd 1

lemma next_of_lt {c d : ℕ∞} (hc : c < d) (hd : Held d) (htop : d ≠ ⊤) : next c = c + 1 := by
  rw [next, if_neg]
  rintro rfl
  rcases hd with he | rfl
  · lift d to ℕ using htop
    exact (Nat.cast_lt.mp hc).not_gt (he d rfl)
  · exact hc.ne rfl

end Cost

open Cost

/-- The double counts to a number up to 2^53, or is infinite. -/
def Tally (x : Float) : Prop := ∃ c : ℕ∞, Held c ∧ x = toFloat c

namespace Tally

variable {x y z : Float}

lemma infinity : Tally Plan.infinity := ⟨⊤, held_top, toFloat_top.symm⟩

lemma zero : Tally 0.0 := ⟨0, held_zero, (toFloat_coe 0).symm⟩

lemma succ (hx : Tally x) : Tally (x + 1.0) := by
  obtain ⟨c, hc, rfl⟩ := hx
  exact ⟨next c, held_next hc, toFloat_next hc⟩

end Tally

noncomputable def number (x : Float) : ℕ∞ :=
  open scoped Classical in if h : Tally x then h.choose else ⊤

namespace Tally

variable {x y z : Float}

lemma toFloat_number (hx : Tally x) : toFloat (number x) = x := by
  rw [number, dif_pos hx]
  exact hx.choose_spec.2.symm

lemma held_number (hx : Tally x) : Held (number x) := by
  rw [number, dif_pos hx]
  exact hx.choose_spec.1

lemma compare_eq (hx : Tally x) (hy : Tally y) :
    x.toModel.unpack.compare y.toModel.unpack = some (compare (number x) (number y)) := by
  rw [← compare_held hx.held_number hy.held_number, hx.toFloat_number, hy.toFloat_number]

lemma lt_iff (hx : Tally x) (hy : Tally y) : x < y ↔ number x < number y := by
  have h : x < y ↔ (x.toModel.unpack.compare y.toModel.unpack == some .lt) = true :=
    decide_eq_true_iff
  rw [h, hx.compare_eq hy, ← compare_lt_iff_lt]
  simp

lemma beq_iff (hx : Tally x) (hy : Tally y) : (x == y) = true ↔ number x = number y := by
  have h : (x == y) = (x.toModel.unpack.compare y.toModel.unpack == some .eq) := rfl
  rw [h, hx.compare_eq hy, ← compare_eq_iff_eq (a := number x)]
  simp

lemma le_iff (hx : Tally x) (hy : Tally y) : x ≤ y ↔ number x ≤ number y := by
  have h : x ≤ y ↔ (x.toModel.unpack.compare y.toModel.unpack).any (·.isLE) = true := decide_eq_true_iff
  rw [h, hx.compare_eq hy, Option.any_some, ← compare_le_iff_le, Ordering.isLE_iff_ne_gt]

lemma eq_iff (hx : Tally x) (hy : Tally y) : x = y ↔ number x = number y := by
  refine ⟨fun h => by rw [h], fun h => ?_⟩
  rw [← hx.toFloat_number, h, hy.toFloat_number]

lemma number_toFloat {c : ℕ∞} (hc : Held c) : number (toFloat c) = c := by
  have hx : Tally (toFloat c) := ⟨c, hc, rfl⟩
  have h := compare_held hx.held_number hc
  rw [hx.toFloat_number, compare_held hc hc, Option.some_inj, compare_eq_iff_eq.mpr rfl] at h
  exact compare_eq_iff_eq.mp h.symm

lemma number_infinity : number Plan.infinity = ⊤ := by
  rw [← toFloat_top, number_toFloat held_top]

lemma ofNat {n : ℕ} (h : n ≤ limit) : Tally (Float.ofNat n) :=
  ⟨n, held_coe.mpr h, (toFloat_coe n).symm⟩

lemma number_ofNat {n : ℕ} (h : n ≤ limit) : number (Float.ofNat n) = n := by
  rw [← toFloat_coe, number_toFloat (held_coe.mpr h)]

lemma ofNat_le_ofNat {m n : ℕ} (hm : m ≤ limit) (hn : n ≤ limit) :
    Float.ofNat m ≤ Float.ofNat n ↔ m ≤ n := by
  rw [(Tally.ofNat hm).le_iff (Tally.ofNat hn), number_ofNat hm, number_ofNat hn, Nat.cast_le]

lemma number_zero : number 0.0 = 0 := number_ofNat (n := 0) (Nat.zero_le _)

lemma number_succ (hx : Tally x) : number (x + 1.0) = next (number x) := by
  have h : x + 1.0 = toFloat (next (number x)) := by
    rw [← toFloat_next hx.held_number, hx.toFloat_number]
    rfl
  rw [h, number_toFloat (held_next hx.held_number)]

end Tally

def Least (x : Float) (xs : List Float) : Prop :=
  x = Plan.infinity ∧ xs = [] ∨ x ∈ xs ∧ ∀ y ∈ xs, x ≤ y

lemma foldl_least {xs : List Float} {x : Float} (hx : Tally x) (hxs : ∀ y ∈ xs, Tally y) :
    let m := xs.foldl (fun least y => if y < least then y else least) x
    (m = x ∨ m ∈ xs) ∧ m ≤ x ∧ ∀ y ∈ xs, m ≤ y := by
  induction xs generalizing x with
  | nil => exact ⟨Or.inl rfl, (hx.le_iff hx).mpr le_rfl, fun y hy => absurd hy List.not_mem_nil⟩
  | cons y xs ih =>
    have hy := hxs y List.mem_cons_self
    -- the smaller of the first two takes the place of both
    obtain ⟨z, hz, hfold, hmem, hzx, hzy⟩ : ∃ z, Tally z ∧
        (y :: xs).foldl (fun least y => if y < least then y else least) x =
          xs.foldl (fun least y => if y < least then y else least) z ∧
        (z = x ∨ z = y) ∧ number z ≤ number x ∧ number z ≤ number y := by
      rw [List.foldl_cons]
      split
      · rename_i hlt
        exact ⟨y, hy, rfl, Or.inr rfl, ((hy.lt_iff hx).mp hlt).le, le_rfl⟩
      · rename_i hlt
        exact ⟨x, hx, rfl, Or.inl rfl, le_rfl, not_lt.mp fun h => hlt ((hy.lt_iff hx).mpr h)⟩
    obtain ⟨hin, hle, hall⟩ := ih hz fun w hw => hxs w (List.mem_cons_of_mem y hw)
    have hm : Tally (xs.foldl (fun least y => if y < least then y else least) z) := by
      rcases hin with h | h
      · rwa [h]
      · exact hxs _ (List.mem_cons_of_mem y h)
    rw [hm.le_iff hz] at hle
    rw [hfold]
    refine ⟨?_, (hm.le_iff hx).mpr (hle.trans hzx), fun w hw => ?_⟩
    · rcases hin with h | h
      · rcases hmem with rfl | rfl
        · exact Or.inl h
        · exact Or.inr (by rw [h]; exact List.mem_cons_self)
      · exact Or.inr (List.mem_cons_of_mem y h)
    · rcases List.mem_cons.mp hw with rfl | hw
      · exact (hm.le_iff hy).mpr (hle.trans hzy)
      · exact hall w hw

lemma least_foldl {xs : List Float} (hxs : ∀ y ∈ xs, Tally y) :
    Least (xs.foldl (fun least y => if y < least then y else least) Plan.infinity) xs := by
  obtain ⟨hin, -, hall⟩ := foldl_least Tally.infinity hxs
  rcases hin with h | h
  · cases xs with
    | nil => exact Or.inl ⟨rfl, rfl⟩
    | cons y xs =>
      -- nothing is below infinity, so the first of the list is infinite as well
      have hy := hxs y List.mem_cons_self
      have hle := hall y List.mem_cons_self
      rw [h, Tally.infinity.le_iff hy, Tally.number_infinity, top_le_iff] at hle
      have heq : Plan.infinity = y := (Tally.infinity.eq_iff hy).mpr (Tally.number_infinity.trans hle.symm)
      exact Or.inr ⟨by rw [h, heq]; exact List.mem_cons_self, hall⟩
  · exact Or.inr ⟨h, hall⟩

end Navigation
