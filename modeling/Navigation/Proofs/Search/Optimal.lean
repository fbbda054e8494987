import Navigation.Proofs.Search.Shortest
import Navigation.Proofs.Search.Stretch

namespace Navigation.Search

open Rounding

variable {width height : ℕ} {g : Grid} {diagonal : Bool} {p q : Point} {x : Float} {a b k : ℕ}

section Constants

lemma unpack_sqrtTwo : sqrtTwo.toModel.unpack = .finite .positive 6369051672525773 (-52) (by norm_num) := rfl

lemma unpack_sqrtTwo_sub_one :
    (sqrtTwo - 1.0).toModel.unpack = .finite .positive 7461808180621108 (-54) (by norm_num) := rfl

lemma abs_value_sqrtTwo_sub_le : |value sqrtTwo - √2| ≤ ulp := by
  have hvalue : value sqrtTwo = 6369051672525773 * 2⁻¹ ^ 52 := by
    rw [value, unpack_sqrtTwo, amount]
    norm_num
  have hlo : 6369051672525773 * 2⁻¹ ^ 52 - ulp ≤ √2 := Real.le_sqrt_of_sq_le (by rw [ulp]; norm_num)
  have hhi : √2 ≤ 6369051672525773 * 2⁻¹ ^ 52 + ulp :=
    Real.sqrt_le_iff.mpr ⟨by rw [ulp]; norm_num, by rw [ulp]; norm_num⟩
  rw [hvalue, abs_le]
  constructor <;> linarith

lemma le_sqrt_two : 1.4 ≤ √2 := Real.le_sqrt_of_sq_le (by norm_num)

lemma sqrt_two_le : √2 ≤ 1.4143 := Real.sqrt_le_iff.mpr (by norm_num)

lemma near_sqrtTwo : Near 1 sqrtTwo √2 := by
  refine ⟨?_, abs_value_sqrtTwo_sub_le.trans ?_⟩
  · rw [Plain, unpack_sqrtTwo]
    exact .finite _ (by decide) (by norm_num) (by norm_num)
  · have hone : 1 ≤ √2 := le_trans (by norm_num) le_sqrt_two
    nlinarith [ulp_pos]

lemma near_sqrtTwo_sub_one : Near 3 (sqrtTwo - 1.0) (√2 - 1) := by
  have hvalue : value (sqrtTwo - 1.0) = value sqrtTwo - 1 := by
    rw [value, value, unpack_sqrtTwo, unpack_sqrtTwo_sub_one, amount, amount]
    norm_num
  refine ⟨?_, ?_⟩
  · rw [Plain, unpack_sqrtTwo_sub_one]
    exact .finite _ (by decide) (by norm_num) (by norm_num)
  · have hle := abs_value_sqrtTwo_sub_le
    have hsplit : value sqrtTwo - 1 - (√2 - 1) = value sqrtTwo - √2 := by ring
    rw [hvalue, hsplit]
    nlinarith [ulp_pos, le_sqrt_two]

lemma near_one : Near 0 1.0 1 := by
  have hone : (1.0 : Float) = Float.ofNat 1 := rfl
  rw [hone]
  simpa using Near.ofNat (n := 1) (by norm_num)

lemma near_toll (p q : Point) : Near 1 (toll p q) (stride p q) := by
  rw [toll, stride, Nat.cast_ofNat]
  split
  · exact near_one.mono zero_le_one zero_le_one
  · exact near_sqrtTwo

end Constants

section Costs

variable {start c : Cell g.width g.height} {path : List (Cell g.width g.height)}

lemma Route.span_le (h : Route (moves g.blocked diagonal) start c path x) :
    span (path.map Cell.toPoint) ≤ √2 * path.length := by
  induction h with
  | home => simp
  | @next c d path x s hr _ _ ih =>
    rw [span_map_concat hr.last, List.length_append, List.length_singleton]
    have := stride_le c.toPoint d.toPoint
    push_cast
    linarith

lemma Route.length_le_of_size (hsize : g.width * g.height ≤ 2 ^ 16)
    (h : Route (moves g.blocked diagonal) start c path x) : (path.length : ℝ) ≤ 2 ^ 16 := by
  exact_mod_cast h.length_le.trans hsize

lemma Route.span_le_of_size (hsize : g.width * g.height ≤ 2 ^ 16)
    (h : Route (moves g.blocked diagonal) start c path x) : span (path.map Cell.toPoint) ≤ 1.4143 * 2 ^ 16 :=
  h.span_le.trans (mul_le_mul sqrt_two_le (h.length_le_of_size hsize) (by positivity) (by norm_num))

lemma abs_add_step_sub_le {s : Float} {r t : ℝ} {n : ℕ} (hn : (n : ℝ) ≤ 2 ^ 16)
    (hr : r ≤ 1.4143 * 2 ^ 16) (ht : t ≤ √2) (hp : Plain x)
    (hx : |value x - r| ≤ n * (2⁻¹ ^ 35 + 2⁻¹ ^ 51)) (hs : Near 1 s t) : Plain (x + s) ∧
      |value (x + s) - (r + t)| ≤ (n + 1) * (2⁻¹ ^ 35 + 2⁻¹ ^ 51) := by
  have htwo := sqrt_two_le
  have hone := two_pow_mul_ulp
  have hstep : |value s - t| ≤ 2⁻¹ ^ 51 := by
    refine hs.near.trans ?_
    norm_num at hone ⊢
    nlinarith [ulp_pos]
  obtain ⟨hxl, hxh⟩ := abs_le.mp hx
  obtain ⟨hsl, hsh⟩ := abs_le.mp hstep
  have hbound : value x + value s ≤ 2 ^ 17 := by
    have herr : n * (2⁻¹ ^ 35 + 2⁻¹ ^ 51) ≤ (2 : ℝ) ^ 16 * (2⁻¹ ^ 35 + 2⁻¹ ^ 51) :=
      mul_le_mul_of_nonneg_right hn (by norm_num)
    norm_num at hr herr hsh ⊢
    linarith
  have hlimit : (2 : ℝ) ^ 17 ≤ 2 ^ (1000 : ℤ) := le_trans (by norm_num) Near.two_pow_le
  obtain ⟨hp', hround⟩ := hp.add hs.plain (hbound.trans hlimit)
  have hround' : |value (x + s) - (value x + value s)| ≤ 2⁻¹ ^ 35 := by
    refine hround.trans ((mul_le_mul_of_nonneg_left hbound ulp_pos.le).trans ?_)
    norm_num at hone ⊢
    linarith
  obtain ⟨hl, hh⟩ := abs_le.mp hround'
  refine ⟨hp', abs_le.mpr ?_⟩
  constructor <;> linarith

lemma Route.abs_value_sub_le (hsize : g.width * g.height ≤ 2 ^ 16)
    (h : Route (moves g.blocked diagonal) start c path x) : Plain x ∧
      |value x - span (path.map Cell.toPoint)| ≤ path.length * (2⁻¹ ^ 35 + 2⁻¹ ^ 51) := by
  induction h with
  | home =>
    have hzero : (0.0 : Float) = Float.ofNat 0 := rfl
    obtain ⟨hp, hv⟩ := plain_ofNat (n := 0) (by norm_num)
    rw [hzero, hv]
    refine ⟨hp, ?_⟩
    simp
    positivity
  | @next c d path x s hr hm hd ih =>
    have hs : Near 1 s (stride c.toPoint d.toPoint) := by
      rw [(mem_moves.mp hm).2]
      exact near_toll _ _
    rw [span_map_concat hr.last, List.length_append, List.length_singleton, Nat.cast_add, Nat.cast_one]
    exact abs_add_step_sub_le (hr.length_le_of_size hsize) (hr.span_le_of_size hsize) (stride_le _ _) ih.1 ih.2 hs

lemma Route.abs_value_sub_le_of_size (hsize : g.width * g.height ≤ 2 ^ 16)
    (h : Route (moves g.blocked diagonal) start c path x) :
    |value x - span (path.map Cell.toPoint)| ≤ 2 ^ 16 * (2⁻¹ ^ 35 + 2⁻¹ ^ 51) :=
  (h.abs_value_sub_le hsize).2.trans (mul_le_mul_of_nonneg_right (h.length_le_of_size hsize) (by norm_num))

end Costs

section Estimates

/-- A hypotenuse that is off by a few units in the last place, for whole sides of moderate length. -/
def Precise (hypot : Float → Float → Float) : Prop :=
  ∀ a b : ℕ, a < 2 ^ 16 → b < 2 ^ 16 → Near 8 (hypot (Float.ofNat a) (Float.ofNat b)) √((a : ℝ) ^ 2 + (b : ℝ) ^ 2)

lemma near_hypotenuse (ha : a < 2 ^ 16) (hb : b < 2 ^ 16) :
    Near 1 (hypotenuse (Float.ofNat a) (Float.ofNat b)) √((a : ℝ) ^ 2 + (b : ℝ) ^ 2) := by
  have haa : a * a < 2 ^ 32 := by nlinarith
  have hbb : b * b < 2 ^ 32 := by nlinarith
  have hsum : Float.ofNat a * Float.ofNat a + Float.ofNat b * Float.ofNat b =
      Float.ofNat (a * a + b * b) := by
    rw [Whole.mul_ofNat (by omega) (by omega) (by omega), Whole.mul_ofNat (by omega) (by omega) (by omega),
      Whole.add_ofNat (by omega)]
  obtain ⟨hp, hv⟩ := plain_ofNat (n := a * a + b * b) (by omega)
  have hvalue : value (Float.ofNat (a * a + b * b)) = (a : ℝ) ^ 2 + (b : ℝ) ^ 2 := by
    rw [hv]
    push_cast
    ring
  rw [hypotenuse, hsum, ← hvalue]
  exact Near.sqrt hp

lemma precise_hypotenuse : Precise hypotenuse :=
  fun _ _ ha hb => (near_hypotenuse ha hb).mono (Real.sqrt_nonneg _) (by norm_num)

lemma near_octile (ha : a < 2 ^ 16) (hb : b ≤ a) :
    Near 8 (Float.ofNat a + (sqrtTwo - 1.0) * Float.ofNat b) (a + (√2 - 1) * b) := by
  have hlo := le_sqrt_two
  have hhi := sqrt_two_le
  have hb0 : (0 : ℝ) ≤ b := Nat.cast_nonneg b
  have ha' : (a : ℝ) ≤ 65536 := by exact_mod_cast ha.le
  have hba : (b : ℝ) ≤ a := by exact_mod_cast hb
  have hslanted : 0 ≤ (√2 - 1) * b ∧ (√2 - 1) * b ≤ 65536 := ⟨by nlinarith, by nlinarith⟩
  have hprod : Near (3 + 0 + 3) ((sqrtTwo - 1.0) * Float.ofNat b) ((√2 - 1) * b) := by
    refine near_sqrtTwo_sub_one.mul (Near.ofNat (by omega)) (by linarith) hb0 (by norm_num) (by norm_num)
      le_rfl (by norm_num) ?_ ?_
    · rcases Nat.eq_zero_or_pos b with rfl | hpos
      · simp
      · have : (1 : ℝ) ≤ b := by exact_mod_cast hpos
        exact Or.inr (by norm_num at hlo ⊢; nlinarith)
    · exact hslanted.2.trans (by norm_num)
  have hadd := ((Near.ofNat (n := a) (by omega)).mono (Nat.cast_nonneg a) (by norm_num : (0 : ℝ) ≤ 3 + 0 + 3)).add
    hprod (Nat.cast_nonneg a) hslanted.1 (by norm_num) ((add_le_add ha' hslanted.2).trans (by norm_num))
  exact hadd.mono (add_nonneg (Nat.cast_nonneg a) hslanted.1) (by norm_num)

lemma near_estimate {h : Heuristic} {hypot : Float → Float → Float} (hhypot : h = .euclidean → Precise hypot)
    (hx : Point.apart p.x q.x < 2 ^ 16) (hy : Point.apart p.y q.y < 2 ^ 16) :
    Near 8 (h.estimate hypot p q) (h.reach p q) := by
  have hlt : Float.ofNat (Point.apart p.x q.x) < Float.ofNat (Point.apart p.y q.y) ↔
      Point.apart p.x q.x < Point.apart p.y q.y := ofNat_lt_ofNat (by omega) (by omega)
  cases h with
  | manhattan =>
    have hsum := Near.ofNat (n := Point.apart p.x q.x + Point.apart p.y q.y) (by omega)
    rw [← Whole.add_ofNat (by omega), Nat.cast_add] at hsum
    exact hsum.mono (by positivity) (by norm_num)
  | euclidean => exact hhypot rfl _ _ hx hy
  | diagonal =>
    simp only [Heuristic.estimate, Heuristic.reach, Heuristic.norm, Nat.cast_ofNat, hlt]
    split
    · rename_i h
      have hle : (Point.apart p.x q.x : ℝ) ≤ Point.apart p.y q.y := by exact_mod_cast h.le
      rw [max_eq_right hle, min_eq_left hle]
      exact near_octile hy h.le
    · rename_i h
      have hle : (Point.apart p.y q.y : ℝ) ≤ Point.apart p.x q.x := by exact_mod_cast not_lt.mp h
      rw [max_eq_left hle, min_eq_right hle]
      exact near_octile hx (not_lt.mp h)

namespace Heuristic

lemma max_le_norm (h : Heuristic) {a b : ℝ} (ha : 0 ≤ a) (hb : 0 ≤ b) : max a b ≤ h.norm a b := by
  cases h with
  | manhattan => exact max_le (by simp [norm, hb]) (by simp [norm, ha])
  | euclidean =>
    exact max_le (Real.le_sqrt_of_sq_le (by nlinarith)) (Real.le_sqrt_of_sq_le (by nlinarith))
  | diagonal =>
    have hlo := le_sqrt_two
    have hmin : 0 ≤ min a b := le_min ha hb
    have := mul_nonneg (show 0 ≤ √2 - 1 by linarith) hmin
    simp only [norm, Nat.cast_ofNat]
    linarith

lemma norm_le_add (h : Heuristic) {a b : ℝ} (ha : 0 ≤ a) (hb : 0 ≤ b) : h.norm a b ≤ a + b := by
  cases h with
  | manhattan => exact le_rfl
  | euclidean => exact Real.sqrt_le_iff.mpr ⟨by positivity, by nlinarith [mul_nonneg ha hb]⟩
  | diagonal =>
    have hhi := sqrt_two_le
    have hmin := mul_le_mul_of_nonneg_right (show √2 - 1 ≤ 1 by linarith) (le_min ha hb)
    have hsum := max_add_min a b
    simp only [norm, Nat.cast_ofNat]
    linarith

lemma reach_nonneg (h : Heuristic) (p q : Point) : 0 ≤ h.reach p q :=
  (le_max_of_le_left (Nat.cast_nonneg _)).trans (h.max_le_norm (Nat.cast_nonneg _) (Nat.cast_nonneg _))

lemma reach_eq_zero_or (h : Heuristic) (p q : Point) : h.reach p q = 0 ∨ 1 ≤ h.reach p q := by
  have hmax := h.max_le_norm (Nat.cast_nonneg (Point.apart p.x q.x)) (Nat.cast_nonneg (Point.apart p.y q.y))
  rcases Nat.eq_zero_or_pos (max (Point.apart p.x q.x) (Point.apart p.y q.y)) with hz | hpos
  · obtain ⟨hx, hy⟩ := Nat.max_eq_zero_iff.mp hz
    refine Or.inl (le_antisymm ?_ (h.reach_nonneg p q))
    have hle := h.norm_le_add (Nat.cast_nonneg (Point.apart p.x q.x)) (Nat.cast_nonneg (Point.apart p.y q.y))
    rw [hx, hy] at hle
    simpa [reach, hx, hy] using hle
  · have hone : (1 : ℝ) ≤ max (Point.apart p.x q.x : ℝ) (Point.apart p.y q.y) := by exact_mod_cast hpos
    exact Or.inr (hone.trans hmax)

lemma reach_le_of_apart (h : Heuristic) (hx : Point.apart p.x q.x < 2 ^ 16)
    (hy : Point.apart p.y q.y < 2 ^ 16) : h.reach p q ≤ 2 ^ 17 := by
  have hle := h.norm_le_add (Nat.cast_nonneg (Point.apart p.x q.x)) (Nat.cast_nonneg (Point.apart p.y q.y))
  have hsum : (Point.apart p.x q.x : ℝ) + Point.apart p.y q.y ≤ 2 ^ 17 := by
    exact_mod_cast (by omega : Point.apart p.x q.x + Point.apart p.y q.y ≤ 2 ^ 17)
  exact hle.trans hsum

end Heuristic

end Estimates

namespace Query

variable {q : Query} {start goal c : Cell q.grid.width q.grid.height} {path : List (Cell q.grid.width q.grid.height)}

lemma apart_lt (hsize : q.grid.width * q.grid.height ≤ 2 ^ 16) (c d : Cell q.grid.width q.grid.height) :
    Point.apart c.x d.x < 2 ^ 16 ∧ Point.apart c.y d.y < 2 ^ 16 := by
  have hx := c.inside.1
  have hy := c.inside.2
  have hx' := d.inside.1
  have hy' := d.inside.2
  have hw : q.grid.width ≤ q.grid.width * q.grid.height := Nat.le_mul_of_pos_right _ (by omega)
  have hh : q.grid.height ≤ q.grid.width * q.grid.height := Nat.le_mul_of_pos_left _ (by omega)
  simp only [Point.apart]
  omega

section Estimates

variable (hweight : q.weight = 1.0) (hhypot : q.heuristic = .euclidean → Precise q.hypot)
  (hsize : q.grid.width * q.grid.height ≤ 2 ^ 16) (hgoal : goal.toPoint = q.goal)

include hweight hhypot hsize hgoal

lemma near_estimate (c : Cell q.grid.width q.grid.height) :
    Near 11 (q.estimate c.toPoint) (q.heuristic.reach c.toPoint q.goal) := by
  rw [estimate, hweight, ← hgoal]
  obtain ⟨hx, hy⟩ := apart_lt hsize c goal
  have hnonneg := q.heuristic.reach_nonneg c.toPoint goal.toPoint
  have hle := q.heuristic.reach_le_of_apart (p := c.toPoint) (q := goal.toPoint) hx hy
  have hmul := near_one.mul (Search.near_estimate hhypot hx hy) zero_le_one hnonneg le_rfl (by norm_num)
    (by norm_num) (by norm_num) ?_ ?_
  · rw [one_mul] at hmul
    exact hmul.mono hnonneg (by norm_num)
  · rw [one_mul]
    exact (q.heuristic.reach_eq_zero_or _ _).imp_right fun h => le_trans (by norm_num) h
  · rw [one_mul]
    exact hle.trans (by norm_num)

lemma abs_total_sub_le (h : Route (moves q.grid.blocked q.diagonal) start c path x) :
    Plain (x + q.estimate c.toPoint) ∧
      |value (x + q.estimate c.toPoint) - (value x + q.heuristic.reach c.toPoint q.goal)| ≤ 2⁻¹ ^ 30 := by
  have hestimate := near_estimate hweight hhypot hsize hgoal c
  obtain ⟨hx, hy⟩ := apart_lt hsize c goal
  have hreach := q.heuristic.reach_le_of_apart (p := c.toPoint) (q := goal.toPoint) hx hy
  have hnonneg := q.heuristic.reach_nonneg c.toPoint q.goal
  rw [hgoal] at hreach
  obtain ⟨hp, -⟩ := h.abs_value_sub_le hsize
  have hcost := (abs_le.mp (h.abs_value_sub_le_of_size hsize)).2
  have hspan := h.span_le_of_size hsize
  have hvalue : value x ≤ 2 ^ 17 := by
    norm_num at hcost hspan ⊢
    linarith
  have hone := two_pow_mul_ulp
  have hnear : |value (q.estimate c.toPoint) - q.heuristic.reach c.toPoint q.goal| ≤ 2⁻¹ ^ 31 := by
    refine hestimate.near.trans ((mul_le_mul_of_nonneg_left hreach (by nlinarith [ulp_pos])).trans ?_)
    norm_num at hone ⊢
    linarith
  obtain ⟨hl, hh⟩ := abs_le.mp hnear
  have hsum : value x + value (q.estimate c.toPoint) ≤ 2 ^ 19 := by
    norm_num at hh hreach hvalue ⊢
    linarith
  have hlimit : (2 : ℝ) ^ 19 ≤ 2 ^ (1000 : ℤ) := le_trans (by norm_num) Near.two_pow_le
  obtain ⟨hp', hround⟩ := hp.add hestimate.plain (hsum.trans hlimit)
  have hround' := hround.trans (mul_le_mul_of_nonneg_left hsum ulp_pos.le)
  obtain ⟨hl', hh'⟩ := abs_le.mp hround'
  refine ⟨hp', abs_le.mpr ⟨?_, ?_⟩⟩ <;> norm_num at hl hh hl' hh' hone ⊢ <;> linarith

lemma tracks (hheuristic : q.diagonal = true → q.heuristic ≠ .manhattan) :
    Tracks (moves q.grid.blocked q.diagonal) q.estimate start (fun p => q.heuristic.reach p q.goal)
      (2 ^ 16 * (2⁻¹ ^ 35 + 2⁻¹ ^ 51)) (2⁻¹ ^ 29) := by
  refine ⟨by positivity, fun c path x h => (h.abs_value_sub_le hsize).1,
    fun c path x h => h.abs_value_sub_le_of_size hsize, fun c d path path' x y h h' hrank => ?_,
    fun c d h => Heuristic.reach_le hheuristic (leads_iff.mp h) _, fun c path x r h hr hlt => ?_⟩
  · obtain ⟨hp, hx⟩ := abs_total_sub_le hweight hhypot hsize hgoal h
    obtain ⟨hp', hy⟩ := abs_total_sub_le hweight hhypot hsize hgoal h'
    have hle := (hp.rank_le_iff hp').mp hrank
    obtain ⟨hl, -⟩ := abs_le.mp hx
    obtain ⟨-, hh⟩ := abs_le.mp hy
    norm_num at hl hh ⊢
    linarith
  · obtain ⟨m, n, rfl⟩ := hr.exists_counts
    obtain ⟨i, j, hij⟩ := h.way.exists_counts
    have hspan := h.span_le_of_size hsize
    rw [hij] at hlt hspan ⊢
    have hmargin := one_le_of_lt hlt hspan
    norm_num at hmargin ⊢
    linarith

end Estimates

/-- With a weight of one, and no Manhattan distance where moves may be slanted, no legal path from start to
goal is shorter than the one that the search finds, whether it repeats itself or not. -/
theorem span_path_le (q : Query) (hweight : q.weight = 1.0) (hhypot : q.heuristic = .euclidean → Precise q.hypot)
    (hheuristic : q.diagonal = true → q.heuristic ≠ .manhattan)
    (hsize : q.grid.width * q.grid.height ≤ 2 ^ 16) (h : q.plan.success = true) :
    Joins q.grid q.diagonal q.start q.goal q.plan.path ∧
    ∀ path : List Point, path.head? = some q.start → path.getLast? = some q.goal →
      path.IsChain (Legal q.grid q.diagonal) → span q.plan.path ≤ span path := by
  refine ⟨q.joins_path h, fun path hfirst hlast hlegal => ?_⟩
  rcases q.plan_cases with ⟨start, goal, hs, hg, -⟩ | ⟨-, hp, -⟩
  · obtain ⟨hs', -⟩ := freeCell?_eq_some.mp hs
    obtain ⟨hg', -⟩ := freeCell?_eq_some.mp hg
    obtain ⟨c, hc, hway⟩ := exists_way (hs' ▸ hfirst) hlast hlegal
    have hcell : c = goal := Cell.toPoint_injective (hc.trans hg'.symm)
    rw [plan_of_some hs hg] at h ⊢
    obtain ⟨found, hpath, hshort⟩ := Progress.shortest_run (tracks hweight hhypot hsize hg' hheuristic) h
    rw [hpath]
    exact hshort _ (hcell ▸ hway)
  · rw [hp] at h
    exact (Bool.false_ne_true h).elim

theorem span_bend_le : bend.plan.success = true ∧
    span bend.plan.path ≤ span [⟨0, 0⟩, ⟨0, 1⟩, ⟨0, 2⟩, ⟨1, 2⟩, ⟨2, 2⟩] := by
  have hs : bend.plan.success = true := by decide +kernel
  refine ⟨hs, (span_path_le bend rfl (fun _ => precise_hypotenuse) (by decide) (by decide) hs).2 _ rfl rfl ?_⟩
  decide +kernel

def slope : Query where
  grid := Grid.block ⟨3, 4, Table.uniform false⟩ ⟨1, 1⟩
  start := ⟨2, 0⟩
  goal := ⟨0, 3⟩
  heuristic := .manhattan

theorem span_lt_span_path_slope : slope.weight = 1.0 ∧ slope.plan.success = true ∧
    ∃ path, Joins slope.grid slope.diagonal slope.start slope.goal path ∧ span path < span slope.plan.path := by
  have hpath : slope.plan.path = [⟨2, 0⟩, ⟨1, 0⟩, ⟨0, 0⟩, ⟨0, 1⟩, ⟨0, 2⟩, ⟨0, 3⟩] := by decide +kernel
  refine ⟨rfl, by decide +kernel, [⟨2, 0⟩, ⟨2, 1⟩, ⟨2, 2⟩, ⟨1, 2⟩, ⟨0, 3⟩], ⟨rfl, rfl, by decide +kernel, by decide⟩, ?_⟩
  have htwo := sqrt_two_le
  rw [hpath]
  norm_num [span, stride] at htwo ⊢
  linarith

end Query

end Navigation.Search
