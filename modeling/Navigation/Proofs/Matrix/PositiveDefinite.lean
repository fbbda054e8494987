import Mathlib
import Navigation.Matrix.Cholesky
import Navigation.Proofs.Matrix.Solutions

namespace Navigation

namespace Table

section

variable {n : ℕ} {α : Type} [Scalar α] {s t : Table n n α}

lemma remainder_congr (h : ∀ i j, j ≤ i → s.get i j = t.get i j) (l : Table n n α) {i j : Fin n} (hj : j ≤ i) :
    s.remainder l i j = t.remainder l i j := by
  rw [remainder, remainder, h i j hj]

def rowStep (t : Table n n α) (i : Fin n) (l : Table n n α) (j : Fin n) : Table n n α :=
  if j < i then l.set i j (t.remainder l i j / l.get j j) else l

lemma choleskyRow_eq (t l : Table n n α) (i : Fin n) :
    t.choleskyRow l i = (List.finRange n).foldl (t.rowStep i) l := by
  rw [choleskyRow, Fin.foldl_eq_foldl_finRange]
  rfl

lemma rowStep_congr (h : ∀ i j, j ≤ i → s.get i j = t.get i j) : s.rowStep = t.rowStep := by
  funext i l j
  unfold rowStep
  split
  · rename_i hj
    rw [remainder_congr h l hj.le]
  · rfl

lemma choleskyStep_congr (h : ∀ i j, j ≤ i → s.get i j = t.get i j) : s.choleskyStep = t.choleskyStep := by
  funext l i
  rw [choleskyStep, choleskyStep, choleskyRow_eq, choleskyRow_eq, rowStep_congr h, remainder_congr h _ le_rfl]

lemma cholesky_congr (h : ∀ i j, j ≤ i → s.get i j = t.get i j) : s.cholesky = t.cholesky := by
  rw [cholesky, cholesky, choleskyStep_congr h]

end

open Matrix

def symmetrized {n : ℕ} {α : Type} (t : Table n n α) : Matrix (Fin n) (Fin n) α :=
  Matrix.of fun i j => t.get (max i j) (min i j)

def rowProduct {n : ℕ} (l : Table n n ℝ) (r c : Fin n) : ℝ := ∑ k, l.get r k * l.get c k

structure Factored (t l : Table n n ℝ) (i j : ℕ) : Prop where
  outside : ∀ r c : Fin n, r < c ∨ i < r ∨ r.val = i ∧ j ≤ c → l.get r c = 0
  pos : ∀ r : Fin n, r.val < i → 0 < l.get r r
  rowProduct_eq : ∀ r c : Fin n, c ≤ r → r.val < i ∨ r.val = i ∧ c.val < j → l.rowProduct r c = t.get r c

section

variable {n : ℕ} {t l : Table n n ℝ} {i j : Fin n} {x : ℝ}

lemma rowProduct_comm (l : Table n n ℝ) (r c : Fin n) : l.rowProduct r c = l.rowProduct c r := by
  simp only [rowProduct, mul_comm]

lemma rowProduct_set_of_ne {r c : Fin n} (hr : r ≠ i) (hc : c ≠ i) :
    (l.set i j x).rowProduct r c = l.rowProduct r c := by
  simp [rowProduct, get_set, hr, hc]

lemma rowProduct_set_row (h : l.get i j = 0) (c : Fin n) :
    (l.set i j x).rowProduct i c = l.rowProduct i c + x * (l.set i j x).get c j := by
  have hentry (k : Fin n) : (l.set i j x).get i k * (l.set i j x).get c k =
      l.get i k * l.get c k + if k = j then x * (l.set i j x).get c j else 0 := by
    by_cases hk : k = j
    · simp [get_set, hk, h]
    · simp [get_set, hk]
  simp only [rowProduct, hentry]
  rw [Finset.sum_add_distrib, Finset.sum_ite_eq', if_pos (Finset.mem_univ j)]

lemma remainder_eq (h : ∀ k, j ≤ k → l.get i k = 0) : t.remainder l i j = t.get i j - l.rowProduct i j := by
  rw [remainder, Factors.foldl_sub, rowProduct]
  congr 1
  refine Finset.sum_congr rfl fun k _ => ?_
  split
  · rfl
  · rename_i hk
    rw [h k (not_lt.mp hk), zero_mul]

namespace Factored

lemma blank (h : Factored t l i j) {k : Fin n} (hk : j ≤ k) : l.get i k = 0 :=
  h.outside i k (.inr (.inr ⟨rfl, hk⟩))

lemma remainder (h : Factored t l i j) : t.remainder l i j = t.get i j - l.rowProduct i j :=
  remainder_eq fun _ hk => h.blank hk

lemma entry (h : Factored t l i j) (hj : j < i) :
    Factored t (l.set i j (t.remainder l i j / l.get j j)) i (j + 1) where
  outside r c hrc := by
    rw [get_set, if_neg (by rintro ⟨rfl, rfl⟩; omega)]
    exact h.outside r c (by omega)
  pos r hr := by
    rw [get_set, if_neg (by rintro ⟨rfl, -⟩; omega)]
    exact h.pos r hr
  rowProduct_eq r c hc hrc := by
    have hne : c ≠ i := by rintro rfl; omega
    by_cases hr : r = i
    · subst hr
      rw [rowProduct_set_row (h.blank le_rfl), get_set, if_neg fun hf => hne hf.1]
      rcases (show c ≤ j by omega).lt_or_eq with hcj | rfl
      · rw [h.outside c j (.inl hcj), mul_zero, add_zero]
        exact h.rowProduct_eq r c hc (.inr ⟨rfl, hcj⟩)
      · rw [div_mul_cancel₀ _ (h.pos c hj).ne', h.remainder, add_sub_cancel]
    · rw [rowProduct_set_of_ne hr hne]
      exact h.rowProduct_eq r c hc (by omega)

lemma close (h : Factored t l i i) (hd : 0 < t.remainder l i i) :
    Factored t (l.set i i √(t.remainder l i i)) (i + 1) 0 where
  outside r c hrc := by
    rw [get_set, if_neg (by rintro ⟨rfl, rfl⟩; omega)]
    exact h.outside r c (by omega)
  pos r hr := by
    rw [get_set]
    split
    · exact Real.sqrt_pos.mpr hd
    · exact h.pos r (by omega)
  rowProduct_eq r c hc hrc := by
    by_cases hr : r = i
    · subst hr
      rcases hc.lt_or_eq with hlt | rfl
      · rw [rowProduct_set_row (h.blank le_rfl), get_set, if_neg fun hf => hlt.ne hf.1,
          h.outside c r (.inl hlt), mul_zero, add_zero]
        exact h.rowProduct_eq r c hc (.inr ⟨rfl, hlt⟩)
      · rw [rowProduct_set_row (h.blank le_rfl), get_set, if_pos ⟨rfl, rfl⟩, Real.mul_self_sqrt hd.le,
          h.remainder, add_sub_cancel]
    · have hlt : r.val < i := by omega
      rw [rowProduct_set_of_ne hr (by rintro rfl; omega)]
      exact h.rowProduct_eq r c hc (.inl hlt)

lemma foldl_rowStep {start : ℕ} {cols : List (Fin n)} (hcols : Factors.Upward start cols)
    (h : Factored t l i (min start i)) : Factored t (cols.foldl (t.rowStep i) l) i i := by
  induction cols generalizing start l with
  | nil => rwa [min_eq_right (i.isLt.le.trans hcols.le_of_nil)] at h
  | cons j cols ih =>
    obtain ⟨rfl, hrest⟩ := hcols.of_cons
    apply ih hrest
    unfold rowStep
    split
    · rename_i hj
      have hji : j.val < i.val := hj
      rw [min_eq_left hji.le] at h
      rw [min_eq_left (Nat.succ_le_of_lt hji)]
      exact h.entry hj
    · rename_i hj
      rw [min_eq_right (by omega)] at h ⊢
      exact h

lemma row (h : Factored t l i 0) : Factored t (t.choleskyRow l i) i i := by
  rw [choleskyRow_eq]
  exact foldl_rowStep Factors.Upward.finRange (by rwa [Nat.zero_min])

lemma symmetrized_eq (h : Factored t l i i) {r c : Fin n} (hr : r ≤ i) (hc : c ≤ i) : t.symmetrized r c =
    (l.matrix * l.matrixᵀ + t.remainder l i i • Matrix.single i i (1 : ℝ)) r c := by
  have hlower {r c : Fin n} (hr : r ≤ i) (hc : c ≤ r) : t.get r c =
      l.rowProduct r c + t.remainder l i i * Matrix.single i i 1 r c := by
    by_cases hci : c = i
    · obtain rfl : r = i := le_antisymm hr (hci ▸ hc)
      rw [hci, h.remainder, single_apply_same, mul_one, add_sub_cancel]
    · rw [single_apply_of_ne _ _ _ _ _ (by tauto), mul_zero, add_zero]
      exact (h.rowProduct_eq r c hc (by omega)).symm
  change t.get (max r c) (min r c) = l.rowProduct r c + t.remainder l i i * Matrix.single i i 1 r c
  rcases le_total c r with hcr | hrc
  · rw [max_eq_left hcr, min_eq_right hcr]
    exact hlower hr hcr
  · rw [max_eq_right hrc, min_eq_left hrc, rowProduct_comm, ← transpose_apply (Matrix.single i i (1 : ℝ)),
      transpose_single]
    exact hlower hc hrc

lemma exists_orthogonal (h : Factored t l i i) :
    ∃ x : Fin n → ℝ, x ≠ 0 ∧ (∀ r, i < r → x r = 0) ∧ x ᵥ* l.matrix = 0 := by
  -- beyond row `i` the factor is still empty; with ones there, only the diagonal entry of row `i` is zero
  let beyond : Matrix (Fin n) (Fin n) ℝ := Matrix.diagonal fun r => if i < r then 1 else 0
  have hdet : (l.matrix + beyond).det = 0 := by
    rw [det_of_isLowerTriangular]
    · refine Finset.prod_eq_zero (Finset.mem_univ i) ?_
      simp [beyond, h.blank le_rfl]
    · intro r c hrc
      have hlt : r < c := hrc
      simp [beyond, h.outside r c (.inl hlt), hlt.ne]
  obtain ⟨x, hx, hzero⟩ := exists_vecMul_eq_zero_iff.mpr hdet
  have hend (r : Fin n) (hr : i < r) : x r = 0 := by
    have hcol := congrFun hzero r
    have hl : (x ᵥ* l.matrix) r = 0 := by
      change ∑ k, x k * l.get k r = 0
      refine Finset.sum_eq_zero fun k _ => ?_
      rw [h.outside k r (by omega), mul_zero]
    simpa [vecMul_add, hl, beyond, vecMul_diagonal, hr] using hcol
  refine ⟨x, hx, hend, ?_⟩
  have hbeyond : x ᵥ* beyond = 0 := by
    funext r
    rw [vecMul_diagonal]
    split
    · rename_i hr
      rw [hend r hr, zero_mul, Pi.zero_apply]
    · rw [mul_zero, Pi.zero_apply]
  rwa [vecMul_add, hbeyond, add_zero] at hzero

lemma not_posDef (h : Factored t l i i) (hd : t.remainder l i i ≤ 0) : ¬t.symmetrized.PosDef := by
  intro hpos
  obtain ⟨x, hx, hend, hzero⟩ := h.exists_orthogonal
  -- the rows and columns in which the two matrices differ are those where `x` is zero
  have hvalue : x ⬝ᵥ t.symmetrized *ᵥ x =
      x ⬝ᵥ (l.matrix * l.matrixᵀ + t.remainder l i i • Matrix.single i i (1 : ℝ)) *ᵥ x := by
    refine Finset.sum_congr rfl fun r _ => ?_
    rcases lt_or_ge i r with hr | hr
    · rw [hend r hr, zero_mul, zero_mul]
    · change x r * ∑ c, t.symmetrized r c * x c = x r * ∑ c, _ * x c
      refine congrArg (x r * ·) (Finset.sum_congr rfl fun c _ => ?_)
      rcases lt_or_ge i c with hc | hc
      · rw [hend c hc, mul_zero, mul_zero]
      · rw [h.symmetrized_eq hr hc]
  have hsingle : x ⬝ᵥ Matrix.single i i (1 : ℝ) *ᵥ x = x i * x i := by
    rw [single_mulVec, one_mul]
    exact dotProduct_single x (x i) i
  have hquadratic : x ⬝ᵥ t.symmetrized *ᵥ x = t.remainder l i i * (x i * x i) := by
    rw [hvalue, add_mulVec, dotProduct_add, ← mulVec_mulVec, dotProduct_mulVec, hzero, zero_dotProduct, zero_add,
      smul_mulVec, dotProduct_smul, hsingle, smul_eq_mul]
  have hlt := hpos.dotProduct_mulVec_pos hx
  rw [star_trivial, hquadratic] at hlt
  exact hlt.not_ge (mul_nonpos_of_nonpos_of_nonneg hd (mul_self_nonneg _))

lemma start (t : Table n n ℝ) : Factored t Table.zero 0 0 where
  outside r c _ := by simp [Table.zero, get]
  pos r hr := absurd hr (Nat.not_lt_zero _)
  rowProduct_eq r c _ h := by omega

lemma step (h : Factored t l i 0) :
    (∃ l', t.choleskyStep l i = .ok l' ∧ Factored t l' (i + 1) 0) ∨
      (∃ d, t.choleskyStep l i = .error (.notPositiveDefinite i d)) ∧ ¬t.symmetrized.PosDef := by
  have hrow := h.row
  rw [choleskyStep]
  by_cases hd : t.remainder (t.choleskyRow l i) i i ≤ 0
  · exact .inr ⟨⟨_, if_pos (Scalar.le_iff.mpr hd)⟩, hrow.not_posDef hd⟩
  · exact .inl ⟨_, if_neg (mt Scalar.le_iff.mp hd), hrow.close (not_le.mp hd)⟩

lemma run {start : ℕ} {rows : List (Fin n)} (hrows : Factors.Upward start rows) (h : Factored t l start 0) :
    (∃ l', rows.foldlM t.choleskyStep l = .ok l' ∧ Factored t l' n 0) ∨
      (∃ i d, rows.foldlM t.choleskyStep l = .error (.notPositiveDefinite i d)) ∧ ¬t.symmetrized.PosDef := by
  induction rows generalizing start l with
  | nil =>
    have hn := hrows.le_of_nil
    exact .inl ⟨l, rfl, fun r c hrc => h.outside r c (by omega), fun r hr => h.pos r (by omega),
      fun r c hc hr => h.rowProduct_eq r c hc (by omega)⟩
  | cons i rows ih =>
    obtain ⟨rfl, hrest⟩ := hrows.of_cons
    rw [List.foldlM_cons]
    rcases h.step with ⟨l', hl, hnext⟩ | ⟨⟨d, hd⟩, hpos⟩
    · rw [hl]
      exact ih hrest hnext
    · rw [hd]
      exact .inr ⟨⟨i, d, rfl⟩, hpos⟩

lemma mul_transpose (h : Factored t l n 0) : l.matrix * l.matrixᵀ = t.symmetrized := by
  ext r c
  change l.rowProduct r c = t.get (max r c) (min r c)
  rcases le_total c r with hcr | hrc
  · rw [max_eq_left hcr, min_eq_right hcr, h.rowProduct_eq r c hcr (.inl r.isLt)]
  · rw [max_eq_right hrc, min_eq_left hrc, rowProduct_comm, h.rowProduct_eq c r hrc (.inl c.isLt)]

lemma posDef (h : Factored t l n 0) : t.symmetrized.PosDef := by
  have hdet : l.matrix.det ≠ 0 := by
    rw [det_of_isLowerTriangular]
    · exact Finset.prod_ne_zero_iff.mpr fun i _ => (h.pos i i.isLt).ne'
    · exact fun r c hrc => h.outside r c (.inl hrc)
  rw [← h.mul_transpose, ← conjTranspose_eq_transpose_of_trivial]
  exact PosDef.mul_conjTranspose_self _ (vecMul_injective_of_isUnit ((isUnit_iff_isUnit_det _).mpr hdet.isUnit))

end Factored

end

end Table

namespace DenseMatrix

variable {n : ℕ}

lemma cholesky_square {α : Type} [Scalar α] (t : Table n n α) :
    (⟨n, n, t⟩ : DenseMatrix α).cholesky = t.cholesky.map (⟨n, n, ·⟩) := by
  rw [cholesky, square_eq]
  rfl

open Matrix in
/-- A table has a factor if the symmetric matrix with its lower triangle is positive definite, and the factor is
that matrix's. What is above the diagonal does not matter. -/
theorem cholesky_posDef (t : Table n n ℝ) :
    ((∃ a, (⟨n, n, t⟩ : DenseMatrix ℝ).cholesky = .ok a) ↔ t.symmetrized.PosDef) ∧
    (∀ a, (⟨n, n, t⟩ : DenseMatrix ℝ).cholesky = .ok a → ∃ l : Table n n ℝ, a = ⟨n, n, l⟩ ∧
      l.matrix.IsLowerTriangular ∧ (∀ i, 0 < l.get i i) ∧ l.matrix * l.matrixᵀ = t.symmetrized) ∧
    (¬t.symmetrized.PosDef → ∃ i d, (⟨n, n, t⟩ : DenseMatrix ℝ).cholesky = .error (.notPositiveDefinite i d)) ∧
    ∀ s : Table n n ℝ, (∀ i j, j ≤ i → s.get i j = t.get i j) →
      (⟨n, n, s⟩ : DenseMatrix ℝ).cholesky = (⟨n, n, t⟩ : DenseMatrix ℝ).cholesky := by
  have hupper (s : Table n n ℝ) (hs : ∀ i j, j ≤ i → s.get i j = t.get i j) :
      (⟨n, n, s⟩ : DenseMatrix ℝ).cholesky = (⟨n, n, t⟩ : DenseMatrix ℝ).cholesky := by
    rw [cholesky_square, cholesky_square, Table.cholesky_congr hs]
  rw [cholesky_square, Table.cholesky] at hupper ⊢
  rcases (Table.Factored.start t).run Factors.Upward.finRange with ⟨l, hl, h⟩ | ⟨⟨i, d, hd⟩, hpos⟩
  · rw [hl] at hupper ⊢
    refine ⟨iff_of_true ⟨_, rfl⟩ h.posDef, fun a ha => ?_, fun hpos => absurd h.posDef hpos, hupper⟩
    exact ⟨l, (Except.ok.inj ha).symm, fun r c hrc => h.outside r c (.inl hrc), fun i => h.pos i i.isLt,
      h.mul_transpose⟩
  · rw [hd] at hupper ⊢
    exact ⟨iff_of_false (by rintro ⟨a, ha⟩; cases ha) hpos, nofun, fun _ => ⟨i, d, rfl⟩, hupper⟩

def slanted : Table 2 2 ℝ := ⟨#v[1, 0, 1, 1 + 1]⟩

def saddle : Table 2 2 ℝ := ⟨#v[0, 0, 1, 0]⟩

open Matrix in
theorem cholesky_posDef_slanted :
    (∃ l : Table 2 2 ℝ, (⟨2, 2, slanted⟩ : DenseMatrix ℝ).cholesky = .ok ⟨2, 2, l⟩ ∧
      l.matrix * l.matrixᵀ = !![1, 1; 1, 1 + 1]) ∧
    ∃ i d, (⟨2, 2, saddle⟩ : DenseMatrix ℝ).cholesky = .error (.notPositiveDefinite i d) := by
  have hslanted : slanted.symmetrized = !![1, 1; 1, 1 + 1] := by
    ext i j
    fin_cases i <;> fin_cases j <;> rfl
  have hsaddle : saddle.symmetrized = !![0, 1; 1, 0] := by
    ext i j
    fin_cases i <;> fin_cases j <;> rfl
  have hpos : slanted.symmetrized.PosDef := by
    have hfactor : slanted.symmetrized = !![1, 0; 1, 1] * !![1, 0; 1, 1]ᴴ := by
      rw [hslanted]
      ext i j
      fin_cases i <;> fin_cases j <;> norm_num [mul_apply]
    rw [hfactor]
    refine PosDef.mul_conjTranspose_self _ (vecMul_injective_of_isUnit ((isUnit_iff_isUnit_det _).mpr ?_))
    norm_num [det_fin_two]
  have hneg : ¬saddle.symmetrized.PosDef := fun h => by
    have hdet := h.det_pos
    rw [hsaddle, det_fin_two] at hdet
    norm_num at hdet
  obtain ⟨a, ha⟩ := (cholesky_posDef slanted).1.mpr hpos
  obtain ⟨l, rfl, -, -, hl⟩ := (cholesky_posDef slanted).2.1 a ha
  exact ⟨⟨l, ha, hl.trans hslanted⟩, (cholesky_posDef saddle).2.2.1 hneg⟩

end DenseMatrix

end Navigation
