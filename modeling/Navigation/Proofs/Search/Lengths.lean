import Navigation.Proofs.Search.Charges

/-! Lengths as real numbers: one for a straight move, the root of two for a slanted one. -/

namespace Navigation.Search

variable {g : Grid} {diagonal : Bool} {p q : Point}

noncomputable def stride (p q : Point) : ℝ := if p.x = q.x ∨ p.y = q.y then 1 else √(2 : ℕ)

noncomputable def span (path : List Point) : ℝ := ((path.zip path.tail).map fun (p, q) => stride p q).sum

lemma span_concat {path : List Point} (h : path.getLast? = some p) (q : Point) :
    span (path ++ [q]) = span path + stride p q := by
  simp [span, zip_tail_concat h]

@[simp] lemma span_singleton (p : Point) : span [p] = 0 := by simp [span]

lemma stride_straight (h : p.manhattan q = 1) : stride p q = 1 := by
  refine if_pos ?_
  simp only [Point.manhattan, Point.apart] at h
  omega

lemma stride_slanted (hx : Point.apart p.x q.x = 1) (hy : Point.apart p.y q.y = 1) : stride p q = √2 := by
  rw [stride, Nat.cast_ofNat]
  refine if_neg ?_
  simp only [Point.apart] at hx hy
  omega

lemma stride_nonneg (p q : Point) : 0 ≤ stride p q := by
  rw [stride]
  split
  · exact zero_le_one
  · exact Real.sqrt_nonneg _

lemma stride_le (p q : Point) : stride p q ≤ √2 := by
  rw [stride, Nat.cast_ofNat]
  split
  · exact Real.one_le_sqrt.mpr one_le_two
  · exact le_rfl

section Ways

variable {width height : ℕ} {moves : Moves width height} {start c d : Cell width height} {r : ℝ} {x : Float}
  {route : List (Cell width height)}

inductive Way (moves : Moves width height) (start : Cell width height) :
    Cell width height → ℝ → Prop
  | home : Way moves start start 0
  | next {c d : Cell width height} {r : ℝ} : Way moves start c r → Leads moves c d →
      Way moves start d (r + stride c.toPoint d.toPoint)

lemma Way.nonneg (h : Way moves start c r) : 0 ≤ r := by
  induction h with
  | home => exact le_rfl
  | next _ _ ih => exact add_nonneg ih (stride_nonneg _ _)

lemma Route.way (h : Route moves start c route x) : Way moves start c (span (route.map Cell.toPoint)) := by
  induction h with
  | home =>
    rw [List.map_singleton, span_singleton]
    exact .home
  | @next c d route x s hr hm hd ih =>
    have hlast : (route.map Cell.toPoint).getLast? = some c.toPoint := by simp [hr.last]
    rw [List.map_append, List.map_singleton, span_concat hlast]
    exact ih.next ⟨s, hm⟩

lemma Way.exists_leaving {P : Cell width height → Prop} {rest : Point → ℝ}
    (hrest : ∀ c d, Leads moves c d → rest c.toPoint ≤ stride c.toPoint d.toPoint + rest d.toPoint)
    (hstart : P start) (h : Way moves start c r) (hc : ¬P c) : ∃ a b s, P a ∧ ¬P b ∧
      Leads moves a b ∧ Way moves start a s ∧ s + stride a.toPoint b.toPoint + rest b.toPoint ≤ r + rest c.toPoint := by
  induction h with
  | home => exact (hc hstart).elim
  | @next c d r hw hl ih =>
    by_cases hclosed : P c
    · exact ⟨c, d, r, hclosed, hc, hl, hw, le_rfl⟩
    · obtain ⟨a, b, s, ha, hb, hab, hs, hle⟩ := ih hclosed
      have := hrest c d hl
      exact ⟨a, b, s, ha, hb, hab, hs, by linarith⟩

lemma Way.exists_counts (h : Way moves start c r) : ∃ m n : ℕ, r = m + n * √2 := by
  induction h with
  | home => exact ⟨0, 0, by simp⟩
  | @next c d r _ _ ih =>
    obtain ⟨m, n, rfl⟩ := ih
    rw [stride, Nat.cast_ofNat]
    split
    · exact ⟨m + 1, n, by push_cast; ring⟩
    · exact ⟨m, n + 1, by push_cast; ring⟩

end Ways

lemma exists_way {start : Cell g.width g.height} {path : List Point}
    (hfirst : path.head? = some start.toPoint) (hlast : path.getLast? = some q)
    (h : path.IsChain (Legal g diagonal)) :
    ∃ c : Cell g.width g.height, c.toPoint = q ∧ Way (moves g.blocked diagonal) start c (span path) := by
  induction path using List.reverseRecOn generalizing q with
  | nil => cases hfirst
  | append_singleton path q' ih =>
    rw [List.getLast?_append, List.getLast?_singleton, Option.some_or, Option.some_inj] at hlast
    subst hlast
    cases hl : path.getLast? with
    | none =>
      rw [List.getLast?_eq_none_iff] at hl
      subst hl
      rw [List.nil_append, List.head?_cons, Option.some_inj] at hfirst
      rw [List.nil_append, span_singleton]
      exact ⟨start, hfirst.symm, .home⟩
    | some p =>
      obtain ⟨hpath, -, hjoin⟩ := List.isChain_append.mp h
      have hlegal : Legal g diagonal p q' := hjoin p hl q' rfl
      have hfirst' : path.head? = some start.toPoint := by
        cases path with
        | nil => cases hl
        | cons _ _ => exact hfirst
      obtain ⟨c, rfl, hw⟩ := ih hfirst' hl hpath
      obtain ⟨d, rfl, -⟩ := Grid.exists_cell hlegal.1
      rw [span_concat hl]
      exact ⟨d, rfl, hw.next (leads_iff.mpr hlegal)⟩

section Margin

lemma one_le_abs_sq_sub {u v : ℤ} (h : (u : ℝ) + v * √2 ≠ 0) : 1 ≤ |(u : ℝ) ^ 2 - 2 * v ^ 2| := by
  have hne : u ^ 2 - 2 * v ^ 2 ≠ 0 := by
    intro hz
    by_cases hv : v = 0
    · subst hv
      have hu : u = 0 := by simpa using hz
      simp [hu] at h
    · refine (irrational_iff_ne_rational _).mp irrational_sqrt_two |u| |v| (by simpa using hv) ?_
      have hz' : (u : ℝ) ^ 2 = 2 * v ^ 2 := by exact_mod_cast sub_eq_zero.mp hz
      have hv' : (v : ℝ) ≠ 0 := Int.cast_ne_zero.mpr hv
      rw [Int.cast_abs, Int.cast_abs, ← abs_div, Real.sqrt_eq_iff_mul_self_eq (by norm_num) (abs_nonneg _),
        abs_mul_abs_self]
      field_simp
      linarith
  exact_mod_cast Int.one_le_abs hne

lemma one_le_of_lt {m n i j : ℕ} {r : ℝ} (h : (m : ℝ) + n * √2 < i + j * √2) (hr : (i : ℝ) + j * √2 ≤ r) :
    1 ≤ 2 * r * ((i + j * √2) - (m + n * √2)) := by
  have hroot : √2 * √2 = (2 : ℝ) := Real.mul_self_sqrt zero_le_two
  have hpos := Real.sqrt_nonneg 2
  set u : ℤ := i - m
  set v : ℤ := j - n
  have hu : (u : ℝ) = i - m := by simp [u]
  have hv : (v : ℝ) = j - n := by simp [v]
  have hdiff : (i + j * √2) - (m + n * √2) = u + v * √2 := by
    rw [hu, hv]
    ring
  have hgt : 0 < (u : ℝ) + v * √2 := by
    rw [← hdiff]
    linarith
  have hconj : |(u : ℝ) - v * √2| ≤ 2 * r := by
    have hm : (0 : ℝ) ≤ m := Nat.cast_nonneg m
    have hi : (0 : ℝ) ≤ i := Nat.cast_nonneg i
    have hn : 0 ≤ (n : ℝ) * √2 := by positivity
    have hj : 0 ≤ (j : ℝ) * √2 := by positivity
    rw [hu, hv, abs_le]
    constructor <;> nlinarith
  -- the difference times its conjugate is a whole number, and it is not zero
  have hprod : (u : ℝ) ^ 2 - 2 * v ^ 2 = (u + v * √2) * (u - v * √2) := by
    ring_nf
    rw [Real.sq_sqrt zero_le_two]
  have hone := one_le_abs_sq_sub hgt.ne'
  rw [hprod, abs_mul, abs_of_pos hgt] at hone
  rw [hdiff, mul_comm]
  exact hone.trans (mul_le_mul_of_nonneg_left hconj hgt.le)

end Margin

section Reach

namespace Heuristic

noncomputable def norm (h : Heuristic) (a b : ℝ) : ℝ :=
  match h with
  | .manhattan => a + b
  | .euclidean => √(a ^ 2 + b ^ 2)
  | .diagonal => max a b + (√(2 : ℕ) - 1) * min a b

noncomputable def reach (h : Heuristic) (p q : Point) : ℝ :=
  h.norm (Point.apart p.x q.x) (Point.apart p.y q.y)

variable {a b a' b' : ℝ}

lemma norm_mono (h : Heuristic) (ha : 0 ≤ a) (hb : 0 ≤ b) (haa : a ≤ a') (hbb : b ≤ b') :
    h.norm a b ≤ h.norm a' b' := by
  cases h with
  | manhattan => exact add_le_add haa hbb
  | euclidean =>
    simp only [norm]
    gcongr
  | diagonal =>
    have hlo : (1 : ℝ) ≤ √(2 : ℕ) := by simp
    have hcoef := sub_nonneg.mpr hlo
    simp only [norm]
    gcongr

lemma norm_sum_le (h : Heuristic) (a b a' b' : ℝ) :
    h.norm (a + a') (b + b') ≤ h.norm a b + h.norm a' b' := by
  cases h with
  | manhattan => exact (add_add_add_comm a a' b b').le
  | euclidean =>
    have hnorm (x y : ℝ) : √(x ^ 2 + y ^ 2) = ‖(⟨x, y⟩ : ℂ)‖ := (Complex.norm_eq_sqrt_sq_add_sq ⟨x, y⟩).symm
    simp only [norm, hnorm]
    exact norm_add_le (⟨a, b⟩ : ℂ) ⟨a', b'⟩
  | diagonal =>
    -- a sum of the maximum and of the plain sum
    have hsplit (x y : ℝ) : max x y + (√(2 : ℕ) - 1) * min x y =
        (2 - √(2 : ℕ)) * max x y + (√(2 : ℕ) - 1) * (x + y) := by
      rw [← max_add_min x y]
      ring
    have hhi : √(2 : ℕ) ≤ (2 : ℝ) := Real.sqrt_le_iff.mpr (by norm_num)
    have hmax := mul_le_mul_of_nonneg_left (max_add_add_le_max_add_max (a := a) (b := a') (c := b) (d := b'))
      (sub_nonneg.mpr hhi)
    simp only [norm, hsplit]
    linarith

lemma reach_triangle (h : Heuristic) (p q r : Point) : h.reach p r ≤ h.reach p q + h.reach q r := by
  have hapart (x y z : ℕ) : (Point.apart x z : ℝ) ≤ Point.apart x y + Point.apart y z := by
    norm_cast
    simp only [Point.apart]
    omega
  exact (h.norm_mono (Nat.cast_nonneg _) (Nat.cast_nonneg _) (hapart p.x q.x r.x) (hapart p.y q.y r.y)).trans
    (h.norm_sum_le _ _ _ _)

lemma reach_of_straight (h : Heuristic) (hpq : p.manhattan q = 1) : h.reach p q = 1 := by
  rcases Nat.add_eq_one_iff.mp hpq with ⟨hx, hy⟩ | ⟨hx, hy⟩ <;> rw [reach, hx, hy] <;> cases h <;> simp [norm]

lemma reach_of_slanted {h : Heuristic} (hne : h ≠ .manhattan) (hx : Point.apart p.x q.x = 1)
    (hy : Point.apart p.y q.y = 1) : h.reach p q = √2 := by
  rw [reach, hx, hy]
  cases h with
  | manhattan => exact (hne rfl).elim
  | euclidean => norm_num [norm]
  | diagonal => simp [norm]

lemma reach_le {h : Heuristic} (hne : diagonal = true → h ≠ .manhattan) (hpq : Legal g diagonal p q)
    (goal : Point) : h.reach p goal ≤ stride p q + h.reach q goal := by
  have hstride : h.reach p q = stride p q := by
    obtain ⟨-, hpq | ⟨hd, hx, hy, -⟩⟩ := hpq
    · rw [stride_straight hpq, h.reach_of_straight hpq]
    · rw [stride_slanted hx hy, reach_of_slanted (hne hd) hx hy]
  exact hstride ▸ h.reach_triangle p q goal

end Heuristic

end Reach

end Navigation.Search
