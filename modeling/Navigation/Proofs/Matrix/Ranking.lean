import Mathlib
import Navigation.Matrix.SingularValues
import Navigation.Proofs.Matrix.Pivots

namespace Navigation.Ranking

section

variable {α β : Type} [LinearOrder β] {f : α → β} {before : α → α → Bool}

lemma pairwise_place (h : ∀ x y, before x y = true ↔ f y < f x) {ys : List α}
    (hys : ys.Pairwise fun x y => f x ≤ f y) (x : α) : (place before x ys).Pairwise fun x y => f x ≤ f y := by
  induction ys with
  | nil => exact List.pairwise_singleton _ x
  | cons y ys ih =>
    obtain ⟨hy, hrest⟩ := List.pairwise_cons.mp hys
    rw [place]
    split
    · rename_i hxy
      refine List.pairwise_cons.mpr ⟨fun z hz => ?_, ih hrest⟩
      rcases List.mem_cons.mp ((perm_place before x ys).mem_iff.mp hz) with rfl | hz
      · exact ((h _ _).mp hxy).le
      · exact hy z hz
    · rename_i hxy
      have hle : f x ≤ f y := not_lt.mp (mt (h x y).mpr hxy)
      refine List.pairwise_cons.mpr ⟨fun z hz => ?_, hys⟩
      rcases List.mem_cons.mp hz with rfl | hz
      · exact hle
      · exact hle.trans (hy z hz)

lemma pairwise_sort (h : ∀ x y, before x y = true ↔ f y < f x) (xs : List α) :
    (sort before xs).Pairwise fun x y => f y ≤ f x := by
  have hplace (sorted : List α) (hsorted : sorted.Pairwise fun x y => f x ≤ f y) :
      (xs.foldl (fun sorted x => place before x sorted) sorted).Pairwise fun x y => f x ≤ f y := by
    induction xs generalizing sorted with
    | nil => exact hsorted
    | cons x xs ih => exact ih _ (pairwise_place h hsorted x)
  exact List.pairwise_reverse.mpr (hplace [] List.Pairwise.nil)

end

section

variable {n : ℕ} (before : Fin n → Fin n → Bool)

lemma toList_order : (order before).toList = sort before (List.finRange n) := rfl

lemma exists_order_eq : ∃ σ : Equiv.Perm (Fin n), ∀ i, (order before).get i = σ i := by
  have hnodup : (order before).toList.Nodup := (perm_sort before _).nodup_iff.mpr (List.nodup_finRange n)
  have hinj : Function.Injective (order before).get := by
    intro i j hij
    have hplace : (⟨i, by simp⟩ : Fin (order before).toList.length) = ⟨j, by simp⟩ :=
      List.nodup_iff_injective_get.mp hnodup (by simpa [Vector.get_eq_getElem] using hij)
    exact Fin.ext (Fin.mk.inj_iff.mp hplace)
  exact ⟨Equiv.ofBijective _ (Finite.injective_iff_bijective.mp hinj), fun _ => rfl⟩

lemma antitone_order {β : Type} [LinearOrder β] {f : Fin n → β} (h : ∀ i j, before i j = true ↔ f j < f i) :
    Antitone fun i => f ((order before).get i) := by
  intro i j hij
  rcases hij.eq_or_lt with rfl | hlt
  · exact le_rfl
  · have hsorted := List.pairwise_iff_getElem.mp (toList_order before ▸ pairwise_sort h (List.finRange n))
    simpa [Vector.get_eq_getElem] using hsorted i j (by simp) (by simp) hlt

end

end Navigation.Ranking

namespace Navigation

variable {m n : ℕ} {α : Type}

namespace Eigenpairs

lemma get_values_ofOrder (d : Diagonalization n α) (order : Vector (Fin n) n) (i : Fin n) :
    (ofOrder d order).values.get i = d.table.get (order.get i) (order.get i) := by
  simp [ofOrder, Vector.get_eq_getElem]

lemma get_vectors_ofOrder (d : Diagonalization n α) (order : Vector (Fin n) n) (i j : Fin n) :
    (ofOrder d order).vectors.get i j = d.axes.get i (order.get j) := by
  rw [ofOrder, Table.gatherCols, Table.get_ofFn]
  rfl

variable [Scalar α]

lemma ofDiagonalization?_eq {d : Diagonalization n α} (h : ∀ i, (d.table.get i i == d.table.get i i) = true) :
    ofDiagonalization? d = some (ofOrder d (Ranking.order fun i j =>
      Scalar.lt (Scalar.abs (d.table.get j j)) (Scalar.abs (d.table.get i i)))) := by
  have hdefined : ((List.finRange n).all fun i => d.table.get i i == d.table.get i i) = true :=
    List.all_eq_true.mpr fun i _ => h i
  rw [ofDiagonalization?, hdefined]
  rfl

end Eigenpairs

namespace SingularValues

variable [Scalar α] (t : Table m n α) (e : Eigenpairs n α)

def ranking : Vector (Fin n) n :=
  Ranking.order fun i j => Scalar.lt (clampedRoot (e.values.get j)) (clampedRoot (e.values.get i))

lemma get_values (j : Fin n) :
    (ofEigenpairs t e).values.get j = clampedRoot (e.values.get ((ranking e).get j)) := by
  simp [ofEigenpairs, ranking, Vector.get_eq_getElem]

lemma get_v (i j : Fin n) : (ofEigenpairs t e).v.get i j = e.vectors.get i ((ranking e).get j) := by
  simp [ofEigenpairs, ranking, Vector.get_eq_getElem, Table.gatherCols]

lemma get_u (i : Fin m) (j : Fin n) : (ofEigenpairs t e).u.get i j =
    if Scalar.le ((ofEigenpairs t e).values.get j) Scalar.singularTolerance then 0
    else (t.mul (ofEigenpairs t e).v).get i j / (ofEigenpairs t e).values.get j :=
  Table.get_ofFn _ i j

end SingularValues

namespace DenseMatrix

variable [Scalar α]

lemma eigenSymmetric_square (t : Table n n α) : (⟨n, n, t⟩ : DenseMatrix α).eigenSymmetric =
    match Eigenpairs.ofTable? t with
      | some e => .ok e
      | none => .error .unordered := by
  rw [eigenSymmetric, square_eq]
  simp only [bind, Except.bind]
  cases Eigenpairs.ofTable? t with
  | none => rfl
  | some e => rfl

def gram (a : DenseMatrix α) : DenseMatrix α := ⟨a.cols, a.cols, a.table.transpose.mul a.table⟩

lemma singularValues_eq (a : DenseMatrix α) : a.singularValues = do
    let _ ← area a.cols a.cols
    let e ← a.gram.eigenSymmetric
    let _ ← area a.rows a.cols
    return SingularValues.ofEigenpairs a.table e := by
  unfold gram
  rw [eigenSymmetric_square, singularValues, SingularValues.ofTable?]
  cases Eigenpairs.ofTable? (a.table.transpose.mul a.table) with
  | none => rfl
  | some e => rfl

lemma exists_ofEigenpairs_eq {a : DenseMatrix α} {s : SingularValues a.rows a.cols α} (h : a.singularValues = .ok s) :
    ∃ e : Eigenpairs a.cols α, a.gram.eigenSymmetric = .ok e ∧ s = SingularValues.ofEigenpairs a.table e := by
  rw [singularValues_eq] at h
  cases hn : (area a.cols a.cols : Except (Error α) ℕ) with
  | error reason =>
    rw [hn] at h
    cases h
  | ok size =>
    cases he : a.gram.eigenSymmetric with
    | error reason =>
      rw [hn, he] at h
      cases h
    | ok e =>
      cases hm : (area a.rows a.cols : Except (Error α) ℕ) with
      | error reason =>
        rw [hn, he, hm] at h
        cases h
      | ok size =>
        rw [hn, he, hm] at h
        exact ⟨e, rfl, (Except.ok.inj h).symm⟩

end DenseMatrix

end Navigation
