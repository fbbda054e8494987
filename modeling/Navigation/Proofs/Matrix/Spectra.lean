import Mathlib
import Navigation.Matrix.SingularValues
import Navigation.Proofs.Matrix.Ranking
import Navigation.Proofs.Number.Order

namespace Navigation

section

variable {m n : ℕ} {α : Type}

def Diagonalization.pairs (d : Diagonalization n α) : List (α × (Fin n → α)) :=
  List.ofFn fun j => (d.table.get j j, fun i => d.axes.get i j)

def Eigenpairs.pairs (e : Eigenpairs n α) : List (α × (Fin n → α)) :=
  List.ofFn fun j => (e.values.get j, fun i => e.vectors.get i j)

def SingularValues.pairs (s : SingularValues m n α) : List (α × (Fin n → α)) :=
  List.ofFn fun j => (s.values.get j, fun i => s.v.get i j)

lemma Eigenpairs.perm_pairs (d : Diagonalization n α) (before : Fin n → Fin n → Bool) :
    (ofOrder d (Ranking.order before)).pairs.Perm d.pairs := by
  obtain ⟨σ, hσ⟩ := Ranking.exists_order_eq before
  have hpairs : (ofOrder d (Ranking.order before)).pairs =
      List.ofFn ((fun j => (d.table.get j j, fun i => d.axes.get i j)) ∘ σ) := by
    simp only [pairs, get_values_ofOrder, get_vectors_ofOrder, hσ]
    rfl
  rw [hpairs]
  exact Equiv.Perm.ofFn_comp_perm σ _

lemma SingularValues.perm_pairs [Scalar α] (t : Table m n α) (e : Eigenpairs n α) :
    (ofEigenpairs t e).pairs.Perm (e.pairs.map (Prod.map clampedRoot id)) := by
  obtain ⟨σ, hσ⟩ : ∃ σ : Equiv.Perm (Fin n), ∀ j, (ranking e).get j = σ j := Ranking.exists_order_eq _
  have hpairs : (ofEigenpairs t e).pairs =
      List.ofFn ((Prod.map clampedRoot id ∘ fun j => (e.values.get j, fun i => e.vectors.get i j)) ∘ σ) := by
    simp only [pairs, get_values, get_v, hσ]
    rfl
  rw [hpairs, Eigenpairs.pairs, List.map_ofFn]
  exact Equiv.Perm.ofFn_comp_perm σ _

end

lemma lt_countP_iff {α : Type} {p : α → Bool} {xs : List α} (h : xs.Pairwise fun x y => p y → p x) {i : ℕ}
    (hi : i < xs.length) : i < xs.countP p ↔ p xs[i] := by
  induction xs generalizing i with
  | nil => cases hi
  | cons x xs ih =>
    obtain ⟨hx, hxs⟩ := List.pairwise_cons.mp h
    by_cases hp : p x
    · rw [List.countP_cons_of_pos hp]
      cases i with
      | zero => simp [hp]
      | succ i => simp [ih hxs (Nat.lt_of_succ_lt_succ hi)]
    · have hnone : ∀ y ∈ x :: xs, ¬p y :=
        List.forall_mem_cons.mpr ⟨hp, fun y hy hpy => hp (hx y hy hpy)⟩
      rw [List.countP_eq_zero.mpr hnone]
      exact iff_of_false (Nat.not_lt_zero i) (hnone _ (List.getElem_mem hi))

open Number

lemma Scalar.lt_float {x y : Float} : Scalar.lt x y = true ↔ x < y := decide_eq_true_iff

lemma Scalar.le_float {x y : Float} : Scalar.le x y = true ↔ x ≤ y := decide_eq_true_iff

lemma Eigenpairs.abs_antitone {n : ℕ} {d : Diagonalization n Float} (h : ∀ j, (d.table.get j j).isNaN = false) :
    ∃ e, ofDiagonalization? d = some e ∧ e.pairs.Perm d.pairs ∧
      ∀ i j, i ≤ j → (e.values.get j).abs ≤ (e.values.get i).abs := by
  refine ⟨_, ofDiagonalization?_eq fun j => beq_self (h j), perm_pairs d _, fun i j hij => ?_⟩
  have hpos (j : Fin n) : Positive (d.table.get j j).abs := positive_abs (h j)
  rw [get_values_ofOrder, get_values_ofOrder, (hpos _).le_iff (hpos _)]
  exact Ranking.antitone_order _ (fun i j => Scalar.lt_float.trans ((hpos j).lt_iff (hpos i))) hij

namespace SingularValues

variable {m n : ℕ} (t : Table m n Float) (e : Eigenpairs n Float)

lemma positive_clampedRoot (x : Float) : Positive (clampedRoot x) := by
  -- what is undefined is not above zero, and is replaced
  have hclamped : Positive (if Scalar.lt 0 x then x else 0) := by
    split
    · rename_i h
      exact positive_of_pos (Scalar.lt_float.mp h)
    · exact positive_zero
  exact hclamped.sqrt

lemma positive_values (j : Fin n) : Positive ((ofEigenpairs t e).values.get j) := by
  rw [get_values]
  exact positive_clampedRoot _

lemma values_antitone {i j : Fin n} (hij : i ≤ j) :
    (ofEigenpairs t e).values.get j ≤ (ofEigenpairs t e).values.get i := by
  have hpos (j : Fin n) : Positive (clampedRoot (e.values.get j)) := positive_clampedRoot _
  rw [get_values, get_values, (hpos _).le_iff (hpos _)]
  exact Ranking.antitone_order _ (fun i j => Scalar.lt_float.trans ((hpos j).lt_iff (hpos i))) hij

lemma get_u_eq_zero {j : Fin n} (h : (ofEigenpairs t e).values.get j ≤ Scalar.singularTolerance) (i : Fin m) :
    (ofEigenpairs t e).u.get i j = 0 := by
  rw [get_u, if_pos (Scalar.le_float.mpr h)]
  rfl

lemma lt_rank {s : SingularValues m n Float} (h : ∀ i j, i ≤ j → s.values.get j ≤ s.values.get i) (j : Fin n) :
    j < s.rank ↔ s.tolerance < s.values.get j := by
  have hfirst : s.values.toList.Pairwise fun x y => Scalar.lt s.tolerance y → Scalar.lt s.tolerance x := by
    refine List.pairwise_iff_getElem.mpr fun i j hi hj hij hlt => ?_
    rw [Scalar.lt_float, Vector.getElem_toList] at hlt ⊢
    exact lt_of_lt_of_le hlt (h ⟨i, by simpa using hi⟩ ⟨j, by simpa using hj⟩ hij.le)
  rw [rank, lt_countP_iff hfirst (by simp), Scalar.lt_float, Vector.getElem_toList]
  rfl

end SingularValues

namespace DenseMatrix

open SingularValues in
/-- Eigenvalues come in falling magnitude and singular values in falling order, each with the vector that it was found
with. Singular values are never undefined or negative, whatever the entries are. -/
theorem spectra_fall :
    (∀ (n : ℕ) (t : Table n n Float), (∀ j, ((Diagonalization.ofTable t).table.get j j).isNaN = false) →
      ∃ e, (⟨n, n, t⟩ : DenseMatrix Float).eigenSymmetric = .ok e ∧
        (∀ i j, i ≤ j → (e.values.get j).abs ≤ (e.values.get i).abs) ∧
        e.pairs.Perm (Diagonalization.ofTable t).pairs) ∧
    ∀ (a : DenseMatrix Float) (s : SingularValues a.rows a.cols Float), a.singularValues = .ok s →
      s.values.toList.length = a.cols ∧
      (∀ j, (s.values.get j).isNaN = false ∧ 0 ≤ s.values.get j) ∧
      (∀ i j, i ≤ j → s.values.get j ≤ s.values.get i) ∧
      (∃ e : Eigenpairs a.cols Float, a.gram.eigenSymmetric = .ok e ∧
        s.pairs.Perm (e.pairs.map (Prod.map clampedRoot id))) ∧
      (∀ j, s.values.get j ≤ Scalar.singularTolerance → ∀ i, s.u.get i j = 0) ∧
      ∀ j : Fin a.cols, j < s.rank ↔ s.tolerance < s.values.get j := by
  refine ⟨fun n t h => ?_, fun a s hs => ?_⟩
  · obtain ⟨e, he, hperm, hfall⟩ := Eigenpairs.abs_antitone h
    refine ⟨e, ?_, hfall, hperm⟩
    rw [eigenSymmetric_square, Eigenpairs.ofTable?, he]
  · obtain ⟨e, he, rfl⟩ := exists_ofEigenpairs_eq hs
    refine ⟨Vector.length_toList, fun j => ?_, fun i j => values_antitone _ e, ⟨e, he, SingularValues.perm_pairs _ e⟩,
      fun j => get_u_eq_zero _ e, lt_rank fun i j => values_antitone _ e⟩
    exact ⟨(positive_values _ e j).isNaN_eq_false, (positive_values _ e j).nonneg⟩

def lopsided : Table 1 2 Float := ⟨#v[3, 4]⟩

theorem spectra_fall_lopsided :
    (∀ j, ((Diagonalization.ofTable (lopsided.transpose.mul lopsided)).table.get j j).isNaN = false) ∧
    (∃ e : Eigenpairs 2 Float, (⟨2, 2, lopsided.transpose.mul lopsided⟩ : DenseMatrix Float).eigenSymmetric = .ok e ∧
      (e.values.get 1).abs ≤ (e.values.get 0).abs) ∧
    ∃ s : SingularValues 1 2 Float, (⟨1, 2, lopsided⟩ : DenseMatrix Float).singularValues = .ok s ∧
      0 ≤ s.values.get 1 ∧ s.values.get 1 ≤ s.values.get 0 ∧
      ∀ j : Fin 2, j < s.rank ↔ s.tolerance < s.values.get j := by
  have hdefined : ∀ j,
      ((Diagonalization.ofTable (lopsided.transpose.mul lopsided)).table.get j j).isNaN = false := by
    decide +kernel
  obtain ⟨e, he, hfall, -⟩ := spectra_fall.1 2 _ hdefined
  have hs : (⟨1, 2, lopsided⟩ : DenseMatrix Float).singularValues = .ok (SingularValues.ofEigenpairs lopsided e) := by
    have hgram : (⟨1, 2, lopsided⟩ : DenseMatrix Float).gram.eigenSymmetric = .ok e := he
    rw [singularValues_eq, hgram]
    rfl
  obtain ⟨-, hpos, hsfall, -, -, hrank⟩ := spectra_fall.2 _ _ hs
  exact ⟨hdefined, ⟨e, he, hfall 0 1 (by decide)⟩, _, hs, (hpos _).2, hsfall 0 1 (by decide), hrank⟩

end DenseMatrix

end Navigation
