import Mathlib
import Navigation.Proofs.Matrix.Spectra
import Navigation.Proofs.Number.Operands

namespace Navigation

open Number

variable {m n : ℕ} {α : Type}

lemma Table.forall_mem_entries {t : Table m n α} {p : α → Prop} :
    (∀ x ∈ t.entries.toList, p x) ↔ ∀ i j, p (t.get i j) := by
  constructor
  · exact fun h i j => h _ (Vector.mem_toList_iff.mpr (Vector.getElem_mem _))
  · intro h x hx
    obtain ⟨a, ha, rfl⟩ := Vector.mem_iff_getElem.mp (Vector.mem_toList_iff.mp hx)
    have haddress : Table.address (rowOf ⟨a, ha⟩) (colOf ⟨a, ha⟩) = ⟨a, ha⟩ := address_rowOf_colOf ⟨a, ha⟩
    have hget : t.get (rowOf ⟨a, ha⟩) (colOf ⟨a, ha⟩) = t.entries[a] :=
      congrArg (fun b : Fin (m * n) => t.entries[b]) haddress
    exact hget ▸ h _ _

namespace DenseMatrix

/-- Square, and each entry is related to the entry across the diagonal. -/
def Across (a : DenseMatrix α) (r : α → α → Prop) : Prop :=
  a.cols = a.rows ∧ ∀ i j x y, a.get i j = .ok x → a.get j i = .ok y → r x y

section

variable {r s : α → α → Prop} {a : DenseMatrix α}

lemma Across.mono (hrs : ∀ x y, r x y → s x y) (h : a.Across r) : a.Across s :=
  ⟨h.1, fun i j x y hx hy => hrs x y (h.2 i j x y hx hy)⟩

lemma Across.and (hr : a.Across r) (hs : a.Across s) : a.Across fun x y => r x y ∧ s x y :=
  ⟨hr.1, fun i j x y hx hy => ⟨hr.2 i j x y hx hy, hs.2 i j x y hx hy⟩⟩

end

lemma get_table (t : Table m n α) (i : Fin m) (j : Fin n) :
    (⟨m, n, t⟩ : DenseMatrix α).get i j = .ok (t.get i j) := by
  rw [get, position, dif_pos ⟨i.isLt, j.isLt⟩]
  rfl

lemma exists_of_get_eq_ok {t : Table m n α} {i j : ℕ} {x : α} (h : (⟨m, n, t⟩ : DenseMatrix α).get i j = .ok x) :
    ∃ (hi : i < m) (hj : j < n), t.get ⟨i, hi⟩ ⟨j, hj⟩ = x := by
  by_cases hij : i < m ∧ j < n
  · refine ⟨hij.1, hij.2, ?_⟩
    have hget := get_table t ⟨i, hij.1⟩ ⟨j, hij.2⟩
    rw [h] at hget
    exact (Except.ok.inj hget).symm
  · rw [get, position, dif_neg hij] at h
    cases h

lemma across_table {t : Table n n α} {r : α → α → Prop} :
    (⟨n, n, t⟩ : DenseMatrix α).Across r ↔ ∀ i j, r (t.get i j) (t.get j i) := by
  constructor
  · intro h i j
    exact h.2 i j _ _ (get_table t i j) (get_table t j i)
  · refine fun h => ⟨rfl, fun i j x y hx hy => ?_⟩
    obtain ⟨hi, hj, rfl⟩ := exists_of_get_eq_ok hx
    obtain ⟨-, -, rfl⟩ := exists_of_get_eq_ok hy
    exact h ⟨i, hi⟩ ⟨j, hj⟩

section

variable [Scalar α] {tol : α}

lemma isSymmetric_table {t : Table n n α} : (⟨n, n, t⟩ : DenseMatrix α).isSymmetric tol = true ↔
    ∀ i j, i < j → ¬Scalar.lt tol (Scalar.abs (t.get i j - t.get j i)) = true := by
  rw [isSymmetric, dif_pos rfl]
  simp only [List.all_eq_true, List.mem_finRange, true_implies, Bool.not_eq_true', Bool.and_eq_false_imp,
    decide_eq_true_eq, Bool.not_eq_true]

lemma approxEq_table {s t : Table m n α} : (⟨m, n, s⟩ : DenseMatrix α).approxEq ⟨m, n, t⟩ tol = true ↔
    ∀ i j, Scalar.le (Scalar.abs (s.get i j - t.get i j)) tol = true := by
  have hzip : (data ⟨m, n, s⟩).toList.zip (data ⟨m, n, t⟩).toList = (s.zipWith Prod.mk t).entries.toList := by
    rw [Table.zipWith, Vector.toList_zipWith]
    rfl
  have hshape : (⟨m, n, s⟩ : DenseMatrix α).shape = (⟨m, n, t⟩ : DenseMatrix α).shape := rfl
  rw [approxEq, decide_eq_true hshape, Bool.true_and, hzip, List.all_eq_true, Table.forall_mem_entries]
  simp only [Table.get_zipWith]

lemma approxEq_transpose_table {t : Table n n α} :
    (⟨n, n, t⟩ : DenseMatrix α).approxEq (⟨n, n, t⟩ : DenseMatrix α).transpose tol = true ↔
      ∀ i j, Scalar.le (Scalar.abs (t.get i j - t.get j i)) tol = true := by
  rw [transpose, approxEq_table]
  simp only [Table.get_transpose]

variable {a : DenseMatrix α} (h : a.cols ≠ a.rows)

include h

lemma isSymmetric_eq_false : a.isSymmetric tol = false := dif_neg h

lemma approxEq_transpose_eq_false : a.approxEq a.transpose tol = false := by
  have hshape : a.shape ≠ a.transpose.shape := fun hs => h (congrArg Shape.rows hs).symm
  rw [approxEq, decide_eq_false hshape, Bool.false_and]

end

variable {a : DenseMatrix Float} {tol : Float}

lemma isSymmetric_iff (h : 0 ≤ tol) : a.isSymmetric tol = true ↔
    a.Across fun x y => (x - y).abs ≤ tol ∨ (x - y).isNaN = true := by
  -- the pairs below the diagonal are as far apart as those above, and what is on the diagonal is taken from
  -- itself
  have htol : tol.isNaN = false := (le_iff.mp h).2.1
  obtain ⟨rows, cols, t⟩ := a
  by_cases hsquare : cols = rows
  · subst hsquare
    have hpair (i j : Fin cols) : ¬Scalar.lt tol (Scalar.abs (t.get i j - t.get j i)) = true ↔
        (t.get i j - t.get j i).abs ≤ tol ∨ (t.get i j - t.get j i).isNaN = true := by
      rw [Scalar.lt_float, ← isNaN_abs (_ - _)]
      exact not_lt_iff_le_or htol
    rw [isSymmetric_table, across_table]
    refine ⟨fun hupper i j => ?_, fun hall i j _ => (hpair i j).mpr (hall i j)⟩
    rcases lt_trichotomy i j with hij | rfl | hij
    · exact (hpair i j).mp (hupper i j hij)
    · exact abs_sub_self_le_or h
    · rw [abs_sub_swap, isNaN_sub_swap]
      exact (hpair j i).mp (hupper j i hij)
  · rw [isSymmetric_eq_false hsquare]
    exact iff_of_false Bool.false_ne_true fun hacross => hsquare hacross.1

lemma approxEq_transpose_iff : a.approxEq a.transpose tol = true ↔ a.Across fun x y => (x - y).abs ≤ tol := by
  obtain ⟨rows, cols, t⟩ := a
  by_cases hsquare : cols = rows
  · subst hsquare
    rw [approxEq_transpose_table, across_table]
    exact forall_congr' fun i => forall_congr' fun j => Scalar.le_float
  · rw [approxEq_transpose_eq_false hsquare]
    exact iff_of_false Bool.false_ne_true fun hacross => hsquare hacross.1

lemma agree_iff_defined (h : 0 ≤ tol) : a.isSymmetric tol = a.approxEq a.transpose tol ↔
    (a.isSymmetric tol = true → a.Across fun x y => (x - y).isNaN = false) := by
  constructor
  · intro hagree hsymmetric
    rw [hsymmetric] at hagree
    exact (approxEq_transpose_iff.mp hagree.symm).mono fun x y hle => by
      rw [← isNaN_abs]
      exact (le_iff.mp hle).1
  · intro hdefined
    rw [Bool.eq_iff_iff]
    refine ⟨fun hsymmetric => ?_, fun hclose => ?_⟩
    · refine approxEq_transpose_iff.mpr ?_
      refine (((isSymmetric_iff h).mp hsymmetric).and (hdefined hsymmetric)).mono fun x y hxy => ?_
      exact hxy.1.resolve_right (Bool.eq_false_iff.mp hxy.2)
    · exact (isSymmetric_iff h).mpr ((approxEq_transpose_iff.mp hclose).mono fun _ _ => .inl)

/-- Comparing with the transpose asks that every difference across the diagonal be small, and checking for symmetry
lets an undefined difference pass as well. The two agree but for a matrix that is accepted with such a difference, so
that they agree on all matrices with finite entries. -/
theorem isSymmetric_eq_approxEq_transpose_iff (a : DenseMatrix Float) {tol : Float} (h : 0 ≤ tol) :
    (a.isSymmetric tol = true ↔ a.Across fun x y => (x - y).abs ≤ tol ∨ (x - y).isNaN = true) ∧
    (a.approxEq a.transpose tol = true ↔ a.Across fun x y => (x - y).abs ≤ tol) ∧
    (a.isSymmetric tol = a.approxEq a.transpose tol ↔
      (a.isSymmetric tol = true → a.Across fun x y => (x - y).isNaN = false)) ∧
    ((∀ i j x, a.get i j = .ok x → x.isFinite = true) → a.isSymmetric tol = a.approxEq a.transpose tol) := by
  have hagree := agree_iff_defined (a := a) h
  refine ⟨isSymmetric_iff h, approxEq_transpose_iff, hagree, fun hfinite => hagree.mpr fun hsymmetric => ?_⟩
  exact ⟨((isSymmetric_iff h).mp hsymmetric).1, fun i j x y hx hy =>
    isNaN_sub_eq_false (hfinite i j x hx) (hfinite j i y hy)⟩

def undefinedAbove : DenseMatrix Float := ⟨2, 2, ⟨#v[0, 0 / 0, 0, 0]⟩⟩

theorem isSymmetric_ne_approxEq_undefinedAbove :
    (0 : Float) ≤ 1 ∧ undefinedAbove.isSymmetric 1 = true ∧
      undefinedAbove.approxEq undefinedAbove.transpose 1 = false := by
  decide +kernel

theorem not_across_undefinedAbove :
    (0 : Float) ≤ 1 ∧ (undefinedAbove.Across fun x y => (x - y).abs ≤ 1 ∨ (x - y).isNaN = true) ∧
      ¬undefinedAbove.Across fun x y => (x - y).isNaN = false := by
  have h : (0 : Float) ≤ 1 := by decide +kernel
  obtain ⟨hsymmetric, -, hagree, -⟩ := isSymmetric_eq_approxEq_transpose_iff undefinedAbove h
  exact ⟨h, hsymmetric.mp (by decide +kernel), fun hdefined =>
    absurd (hagree.mpr fun _ => hdefined) (by decide +kernel)⟩

end DenseMatrix

end Navigation
