import Mathlib
import Navigation.Proofs.Matrix.Requests

namespace Navigation

open Buffer

namespace DenseMatrix

variable {α β γ : Type}

/-- A result that is refused only where shapes do not fit or a table of one of the given shapes is too large. -/
inductive Checked (fits : Prop) (made : List Shape) (good : β → Prop) : Except (Error α) β → Prop
  | ok (x : β) (hfits : fits) (h : good x) : Checked fits made good (.ok x)
  | mismatch (operation : Operation) (left right : Shape) (hfits : ¬fits) :
    Checked fits made good (.error (.mismatch operation left right))
  | overflow (reason : Overflow) {s : Shape} (hs : s ∈ made) (h : s.Large) :
    Checked fits made good (.error (.overflow reason))

namespace Checked

variable {fits fits' : Prop} {made made' : List Shape} {good good' : β → Prop} {x : Except (Error α) β}

lemma mono (h : Checked fits made good x) (hfits : fits ↔ fits') (hmade : made ⊆ made')
    (hgood : ∀ x, fits → good x → good' x) : Checked fits' made' good' x := by
  cases h with
  | ok x hf hx => exact .ok x (hfits.mp hf) (hgood x hf hx)
  | mismatch operation left right hf => exact .mismatch operation left right (mt hfits.mpr hf)
  | overflow reason hs hlarge => exact .overflow reason (hmade hs) hlarge

lemma bind {good' : γ → Prop} {f : β → Except (Error α) γ} (h : Checked fits made good x)
    (hfits : fits' → fits) (hf : ∀ x, fits → good x → Checked fits' made good' (f x)) :
    Checked fits' made good' (x >>= f) := by
  cases h with
  | ok x hfit hx => exact hf x hfit hx
  | mismatch operation left right hfit => exact .mismatch operation left right (mt hfits hfit)
  | overflow reason hs hlarge => exact .overflow reason hs hlarge

end Checked

lemma checked_area {rows cols : ℕ} {made : List Shape} (h : ⟨rows, cols⟩ ∈ made) :
    Checked True made (fun _ => True) (area rows cols : Except (Error α) ℕ) := by
  rcases FlatMatrix.area_cases rows cols with ⟨reason, harea, hlarge⟩ | harea
  · rw [harea]
    exact .overflow reason h hlarge
  · rw [harea]
    exact .ok _ trivial trivial

lemma checked_made (a : DenseMatrix α) {rows cols : ℕ} {made : List Shape} (h : ⟨rows, cols⟩ ∈ made) :
    Checked True made (fun b => b.shape = a.shape) (do
      let _ ← (area rows cols : Except (Error α) ℕ)
      return a) :=
  (checked_area h).bind id fun _ _ _ => .ok a trivial rfl

lemma checked_ofData (rows cols : ℕ) (data : Array α) :
    Checked (data.size = rows * cols) [⟨rows, cols⟩] (fun a => a.shape = ⟨rows, cols⟩)
      (ofData rows cols data) := by
  unfold ofData Word.mul
  split
  · simp only [Except.mapError, ok_bind]
    split
    · rename_i hsize
      exact .ok _ hsize rfl
    · rename_i hsize
      exact .mismatch _ _ _ hsize
  · rename_i hmul
    exact .overflow _ (List.mem_singleton_self _) (Shape.large_of_bound_le (not_lt.mp hmul))

def width (rows : List (List α)) : ℕ := (rows.head?.map List.length).getD 0

lemma checked_ofRows (rows : List (List α)) :
    Checked (∀ row ∈ rows, row.length = width rows) [⟨rows.length, width rows⟩]
      (fun a => a.shape = ⟨rows.length, width rows⟩) (ofRows rows) := by
  unfold ofRows width
  generalize (rows.head?.map List.length).getD 0 = cols
  dsimp only
  refine (checked_area (List.mem_singleton_self _)).bind (fun _ => trivial) fun _ _ _ => ?_
  split
  · rename_i hfind
    refine .mismatch _ _ _ fun h => ?_
    rw [FlatMatrix.find?_length_eq_none.mpr h] at hfind
    cases hfind
  · rename_i hfind
    have hlen := FlatMatrix.find?_length_eq_none.mp hfind
    refine (checked_ofData rows.length cols rows.flatten.toArray).mono ?_ (List.Subset.refl _) fun _ _ h => h
    rw [List.size_toArray]
    exact iff_of_true (FlatMatrix.length_flatten hlen) hlen

lemma checked_sameShape (a b : DenseMatrix α) (operation : Operation) :
    Checked (a.shape = b.shape) [] (fun _ => True) (a.sameShape b operation) := by
  rw [sameShape]
  by_cases h : b.rows = a.rows ∧ b.cols = a.cols
  · rw [dif_pos h]
    refine .ok _ ?_ trivial
    rw [shape, shape, h.1, h.2]
  · rw [dif_neg h]
    refine .mismatch _ _ _ fun hs => h ?_
    cases a
    cases b
    cases hs
    exact ⟨rfl, rfl⟩

lemma checked_square (a : DenseMatrix α) (operation : Operation) (made : List Shape) :
    Checked (a.rows = a.cols) made (fun _ => True) (a.square operation) := by
  rcases FlatMatrix.square_cases a operation with ⟨n, t, rfl, -⟩ | ⟨hne, h, -⟩
  · rw [FlatMatrix.square_self]
    exact .ok t rfl trivial
  · rw [h]
    exact .mismatch _ _ _ hne

section

variable [Scalar α]

lemma checked_multiply (a b : DenseMatrix α) {made : List Shape} (h : ⟨a.rows, b.cols⟩ ∈ made) :
    Checked (a.cols = b.rows) made (fun c => c.shape = ⟨a.rows, b.cols⟩) (a.multiply b) := by
  rw [multiply]
  by_cases hfits : b.rows = a.cols
  · rw [dif_pos hfits]
    exact (checked_made _ h).mono (iff_of_true trivial hfits.symm) (List.Subset.refl _) fun _ _ h => h
  · rw [dif_neg hfits]
    exact .mismatch _ _ _ (Ne.symm hfits)

lemma checked_recompose (u : DenseMatrix α) (values : Array α) (v : DenseMatrix α) :
    Checked (u.cols = values.size ∧ v.cols = values.size)
      [⟨values.size, values.size⟩, ⟨u.rows, values.size⟩, ⟨u.rows, v.rows⟩]
      (fun a => a.shape = ⟨u.rows, v.rows⟩) (u.recompose values v) := by
  refine Checked.bind (checked_made _ List.mem_cons_self) (fun _ => trivial) fun d _ hd => ?_
  have hrows : d.rows = values.size := congrArg Shape.rows hd
  have hcols : d.cols = values.size := congrArg Shape.cols hd
  refine Checked.bind (checked_multiply u d (by simp [hcols])) (fun h => h.1.trans hrows.symm) fun p hfits hp => ?_
  have hprows : p.rows = u.rows := congrArg Shape.rows hp
  have hpcols : p.cols = values.size := (congrArg Shape.cols hp).trans hcols
  refine (checked_multiply p v.transpose (by simp [hprows, transpose])).mono ?_ (List.Subset.refl _) fun a _ ha => ?_
  · rw [hpcols]
    exact ⟨fun h => ⟨hfits.trans hrows, h.symm⟩, fun h => h.2.symm⟩
  · rw [ha, hprows]
    rfl

variable {arrange : Arranger α}
  (harrange : ∀ n lawful before (f : Fin n → α), (arrange n lawful before f).isSome)

include harrange

lemma isSome_eigenpairs {n : ℕ} (t : Table n n α) : (Eigenpairs.arrange? arrange t).isSome := by
  rw [Eigenpairs.arrange?, Option.isSome_map]
  exact harrange ..

lemma isSome_singularValues {m n : ℕ} (t : Table m n α) : (SingularValues.arrange? arrange t).isSome := by
  obtain ⟨e, he⟩ := Option.isSome_iff_exists.mp (isSome_eigenpairs harrange (t.transpose.mul t))
  rw [SingularValues.arrange?, he, Option.bind_some, Option.isSome_map]
  exact harrange ..

lemma checked_eigenSymmetricBy (a : DenseMatrix α) (made : List Shape) :
    Checked (a.rows = a.cols) made (fun _ => True) (a.eigenSymmetricBy arrange) := by
  refine (checked_square a .eigenSymmetric made).bind id fun t hsquare _ => ?_
  obtain ⟨e, he⟩ := Option.isSome_iff_exists.mp (isSome_eigenpairs harrange t)
  rw [he]
  exact .ok e hsquare trivial

lemma checked_singularValuesBy (a : DenseMatrix α) {made : List Shape} (hcols : ⟨a.cols, a.cols⟩ ∈ made)
    (hshape : a.shape ∈ made) : Checked True made (fun _ => True) (a.singularValuesBy arrange) := by
  refine (checked_area hcols).bind id fun _ _ _ => ?_
  obtain ⟨s, hs⟩ := Option.isSome_iff_exists.mp (isSome_singularValues harrange a.table)
  rw [hs]
  exact (checked_area hshape).bind id fun _ _ _ => .ok s trivial trivial

lemma checked_pseudoInverseBy (a : DenseMatrix α) :
    Checked True [⟨min a.rows a.cols, min a.rows a.cols⟩, ⟨max a.rows a.cols, min a.rows a.cols⟩]
      (fun b => b.shape = ⟨a.cols, a.rows⟩) (a.pseudoInverseBy arrange) := by
  rw [pseudoInverseBy]
  by_cases h : a.rows < a.cols
  · rw [if_pos h, min_eq_left h.le, max_eq_right h.le]
    exact (checked_singularValuesBy harrange a.transpose (by simp [transpose]) (by simp [transpose, shape])).bind id
      fun _ _ _ => .ok _ trivial rfl
  · rw [if_neg h, min_eq_right (not_lt.mp h), max_eq_left (not_lt.mp h)]
    exact (checked_singularValuesBy harrange a (by simp) (by simp [shape])).bind id fun _ _ _ => .ok _ trivial rfl

end

end DenseMatrix

section

variable {ε σ ι : Type}

lemma foldlM_error {f : σ → ι → Except ε σ} {p : ε → Prop} (h : ∀ s i e, f s i = .error e → p e)
    {is : List ι} {s : σ} {e : ε} (herror : is.foldlM f s = .error e) : p e := by
  induction is generalizing s with
  | nil => cases herror
  | cons i is ih =>
    rw [List.foldlM_cons] at herror
    cases hf : f s i with
    | error e' =>
      rw [hf] at herror
      cases herror
      exact h s i e hf
    | ok s' =>
      rw [hf] at herror
      exact ih herror

end

def DenseMatrix.Error.OfEntries {α : Type} : DenseMatrix.Error α → Prop
  | .singular .. | .notPositiveDefinite .. => True
  | _ => False

namespace Table

variable {n : ℕ} {α : Type} [Scalar α] {t : Table n n α} {e : DenseMatrix.Error α}

lemma inverse_error (h : t.inverse = .error e) : e.OfEntries := by
  rw [inverse_eq] at h
  cases hrun : (List.finRange n).foldlM clear t.augment with
  | ok r =>
    rw [hrun] at h
    cases h
  | error e' =>
    rw [hrun] at h
    cases h
    refine foldlM_error (fun t k e h => ?_) hrun
    unfold clear at h
    dsimp only at h
    split at h
    · cases h
      trivial
    · cases h

lemma cholesky_error (h : t.cholesky = .error e) : e.OfEntries := by
  refine foldlM_error (fun l i e h => ?_) h
  unfold choleskyStep at h
  dsimp only at h
  split at h
  · cases h
    trivial
  · cases h

end Table

lemma Factors.solve_error {n m : ℕ} {α : Type} [Scalar α] {f : Factors n α} {b : Table n m α}
    {e : DenseMatrix.Error α} (h : f.solve b = .error e) : e.OfEntries := by
  unfold solve at h
  split at h
  · split at h
    · cases h
    · cases h
      trivial
  · cases h

end Navigation
