import Mathlib
import Navigation.Proofs.Matrix.Checks

namespace Navigation

namespace Request

def Fits : Request Shape → Prop
  | new rows cols data => data.size = rows * cols
  | ofRows rows => ∀ row ∈ rows, row.length = DenseMatrix.width rows
  | ofDocument read text => ∀ raw, read text = .ok raw → raw.data.length = raw.rows * raw.cols
  | add a b | sub a b => a = b
  | multiply a b => a.cols = b.rows
  | inverse a | cholesky a | eigenSymmetric a => a.rows = a.cols
  | solve a b => a.rows = a.cols ∧ b.rows = a.rows
  | reconstruct u values v => u.cols = values.size ∧ v.cols = values.size
  | _ => True

def Misplaced : Request Shape → Prop
  | get a r c | set a r c _ => ¬(r < a.rows ∧ c < a.cols)
  | row a r => ¬r < a.rows
  | column a c => ¬c < a.cols
  | _ => False

def shapes : Request Shape → List Shape
  | new rows cols _ | zeros rows cols => [⟨rows, cols⟩]
  | identity n => [⟨n, n⟩]
  | diagonal values => [⟨values.size, values.size⟩]
  | ofRows rows => [⟨rows.length, DenseMatrix.width rows⟩]
  | columnVector values => [⟨values.size, 1⟩]
  | ofDocument read text => ((read text).toOption.map fun raw => ⟨raw.rows, raw.cols⟩).toList
  | get .. => []
  | row a _ => [⟨1, a.cols⟩]
  | column a _ => [⟨a.rows, 1⟩]
  | multiply a b | solve a b => [⟨a.rows, b.cols⟩]
  | transpose a | pseudoInverse a => [⟨a.cols, a.rows⟩]
  | svd a => [a, ⟨a.cols, a.cols⟩]
  | reconstruct u _ v => [⟨u.rows, v.rows⟩]
  | inverse a | cholesky a | eigenSymmetric a => [⟨a.rows, a.rows⟩]
  | set a .. | add a _ | sub a _ | scale a _ => [a]

def count : Request Shape → ℕ
  | get .. => 1
  | eigenSymmetric a => a.rows
  | svd a => a.cols
  | _ => 0

def made : Request Shape → List Shape
  | new rows cols _ | zeros rows cols => [⟨rows, cols⟩]
  | identity n => [⟨n, n⟩]
  | diagonal values => [⟨values.size, values.size⟩]
  | ofRows rows => [⟨rows.length, DenseMatrix.width rows⟩]
  | ofDocument read text => ((read text).toOption.map fun raw => ⟨raw.rows, raw.cols⟩).toList
  | multiply a b => [⟨a.rows, b.cols⟩]
  | svd a => [⟨a.cols, a.cols⟩, a]
  | reconstruct u values v => [⟨values.size, values.size⟩, ⟨u.rows, values.size⟩, ⟨u.rows, v.rows⟩]
  | pseudoInverse a => [⟨min a.rows a.cols, min a.rows a.cols⟩, ⟨max a.rows a.cols, min a.rows a.cols⟩]
  | _ => []

end Request

namespace Fault

variable {α : Type}

def Panics : Fault α → Prop
  | refused (.mismatch ..) | refused (.singular ..) | refused (.notPositiveDefinite ..) | unread _ => False
  | _ => True

def Mismatches : Fault α → Prop
  | refused (.mismatch ..) => True
  | _ => False

def Overflows : Fault α → Prop
  | refused (.overflow _) => True
  | _ => False

def Asserts : Fault α → Prop
  | refused (.entryOutside ..) | refused (.rowOutside ..) | refused (.columnOutside ..) => True
  | _ => False

end Fault

namespace Request

structure Answered (r : Request Shape) (x : Answer (FlatMatrix Float)) : Prop where
  fits : r.Fits
  placed : ¬r.Misplaced
  sound : ∀ a ∈ x.matrices, a.Sound
  shapes : x.matrices.map FlatMatrix.shape = r.shapes
  numbers : x.numbers.size = r.count

structure Refused (r : Request Shape) (fault : Fault Float) : Prop where
  mismatch : fault.Mismatches ↔ ¬r.Fits ∧ ¬fault.Overflows
  misplaced : fault.Asserts ↔ r.Misplaced
  overflow : fault.Overflows → ∃ s ∈ r.made, s.Large
  panics : fault.Panics → fault.Overflows ∨ fault.Asserts

/-- An answer is one the request calls for; a fault is a mismatch just where the shapes do not fit, and ends the
program only for a size or an index. -/
def Lawful (r : Request Shape) : Except (Fault Float) (Answer (FlatMatrix Float)) → Prop
  | .ok x => r.Answered x
  | .error fault => r.Refused fault

open Answer (single)

open DenseMatrix (Checked)

section

variable {r : Request Shape}

lemma lawful_misplaced {fault : Fault Float} (h : fault.Asserts) (hfits : r.Fits) (hplaced : r.Misplaced)
    (hmismatch : ¬fault.Mismatches) (hoverflow : ¬fault.Overflows) : r.Lawful (.error fault) :=
  ⟨iff_of_false hmismatch fun h => h.1 hfits, iff_of_true h hplaced, fun h => absurd h hoverflow, fun _ => .inr h⟩

lemma lawful_failed {fault : Fault Float} (hfits : r.Fits) (hplaced : ¬r.Misplaced)
    (h : ¬fault.Mismatches ∧ ¬fault.Overflows ∧ ¬fault.Asserts ∧ ¬fault.Panics) : r.Lawful (.error fault) :=
  ⟨iff_of_false h.1 fun hm => hm.1 hfits, iff_of_false h.2.2.1 hplaced, fun ho => absurd ho h.2.1,
    fun hp => absurd hp h.2.2.2⟩

lemma lawful_mismatch {operation : DenseMatrix.Operation} {left right : Shape} (hfits : ¬r.Fits)
    (hplaced : ¬r.Misplaced) : r.Lawful (.error (.refused (.mismatch operation left right))) :=
  ⟨iff_of_true trivial ⟨hfits, id⟩, iff_of_false id hplaced, False.elim, False.elim⟩

lemma lawful_checked {β : Type} {fits : Prop} {good : β → Prop} {x : Except (DenseMatrix.Error Float) β}
    {f : β → Except (Fault Float) (Answer (FlatMatrix Float))} (hplaced : ¬r.Misplaced)
    (h : Checked fits r.made good x) (hfits : r.Fits → fits) (hf : ∀ y, fits → good y → r.Lawful (f y)) :
    r.Lawful (x.mapError .refused >>= f) := by
  cases h with
  | ok y hfit hy => exact hf y hfit hy
  | mismatch operation left right hfit => exact lawful_mismatch (mt hfits hfit) hplaced
  | overflow reason hs hlarge =>
    exact ⟨iff_of_false id fun h => h.2 trivial, iff_of_false id hplaced, fun _ => ⟨_, hs, hlarge⟩, .inl⟩

lemma answered_single {a : DenseMatrix Float} (hfits : r.Fits) (hplaced : ¬r.Misplaced)
    (hshapes : [a.shape] = r.shapes) (hnumbers : 0 = r.count) :
    r.Answered (Answer.map DenseMatrix.flat ⟨[a], #[]⟩) :=
  ⟨hfits, hplaced, fun _ hb => List.mem_singleton.mp hb ▸ a.table.size_flat, hshapes, hnumbers⟩

lemma lawful_single {x : Except (DenseMatrix.Error Float) (DenseMatrix Float)} {s : Shape}
    (hplaced : ¬r.Misplaced) (h : Checked r.Fits r.made (fun a => a.shape = s) x) (hshapes : [s] = r.shapes)
    (hnumbers : 0 = r.count) : r.Lawful ((single (x.mapError .refused)).map (Answer.map DenseMatrix.flat)) := by
  have hlawful : r.Lawful (x.mapError .refused >>= fun a => .ok (Answer.map DenseMatrix.flat ⟨[a], #[]⟩)) :=
    lawful_checked hplaced h id fun a hfits ha => answered_single hfits hplaced (ha ▸ hshapes) hnumbers
  cases x <;> exact hlawful

end

section

variable {arrange : Arranger Float}

lemma lawful_ofDocument (read : List Char → Except Json.Failure DenseMatrix.Raw) (text : List Char) :
    (ofDocument read text).Lawful
      ((single (matrixOfText read DenseMatrix.new text)).map (Answer.map DenseMatrix.flat)) := by
  cases hread : read text with
  | error failure =>
    have hfits : (ofDocument read text).Fits := fun raw h => by
      rw [hread] at h
      cases h
    rw [matrixOfText_of_error hread]
    exact lawful_failed hfits not_false ⟨id, id, id, id⟩
  | ok raw =>
    have hfits : (ofDocument read text).Fits ↔ raw.data.toArray.size = raw.rows * raw.cols := by
      simp [Fits, hread]
    have hmade : (ofDocument read text).made = [⟨raw.rows, raw.cols⟩] := by simp [made, hread, Except.toOption]
    have hshapes : (ofDocument read text).shapes = [⟨raw.rows, raw.cols⟩] := by
      simp [shapes, hread, Except.toOption]
    have hchecked : Checked (ofDocument read text).Fits (ofDocument read text).made
        (fun a => a.shape = ⟨raw.rows, raw.cols⟩) (DenseMatrix.ofData raw.rows raw.cols raw.data.toArray) :=
      (DenseMatrix.checked_ofData raw.rows raw.cols raw.data.toArray).mono hfits.symm
        (hmade ▸ List.Subset.refl _) fun _ _ h => h
    have hrun : (single (matrixOfText read DenseMatrix.new text)).map (Answer.map DenseMatrix.flat) =
        (DenseMatrix.ofData raw.rows raw.cols raw.data.toArray).mapError .refused >>= fun a =>
          (raw.rest.mapError .unread).map fun _ => Answer.map DenseMatrix.flat ⟨[a], #[]⟩ := by
      rw [matrixOfText_of_ok hread, DenseMatrix.new]
      cases DenseMatrix.ofData raw.rows raw.cols raw.data.toArray with
      | error e => rfl
      | ok a => cases raw.rest <;> rfl
    rw [hrun]
    refine lawful_checked not_false hchecked id fun a hfit ha => ?_
    cases raw.rest with
    | ok => exact answered_single hfit not_false (by rw [ha, hshapes]) rfl
    | error failure => exact lawful_failed hfit not_false ⟨id, id, id, id⟩

lemma map_bind {β γ δ ε : Type} (x : Except ε β) (f : β → Except ε γ) (g : γ → δ) :
    (x >>= f).map g = x >>= fun y => (f y).map g := by
  cases x <;> rfl

lemma lawful_square {r : Request Shape} {a : DenseMatrix Float} {operation : DenseMatrix.Operation}
    {f : Table a.rows a.rows Float → Except (DenseMatrix.Error Float) (DenseMatrix Float)} (hplaced : ¬r.Misplaced)
    (hfits : r.Fits → a.rows = a.cols)
    (hf : ∀ t, a.rows = a.cols → r.Lawful ((single ((f t).mapError .refused)).map (Answer.map DenseMatrix.flat))) :
    r.Lawful ((single ((a.square operation >>= f).mapError .refused)).map (Answer.map DenseMatrix.flat)) := by
  have hrun : (single ((a.square operation >>= f).mapError .refused)).map (Answer.map DenseMatrix.flat) =
      (a.square operation).mapError .refused >>= fun t =>
        (single ((f t).mapError .refused)).map (Answer.map DenseMatrix.flat) := by
    cases a.square operation <;> rfl
  rw [hrun]
  exact lawful_checked hplaced (DenseMatrix.checked_square a operation r.made) hfits fun t h _ => hf t h

lemma lawful_entries {r : Request Shape} {m n : ℕ} {x : Except (DenseMatrix.Error Float) (Table m n Float)}
    (hfits : r.Fits) (hplaced : ¬r.Misplaced) (hx : ∀ e, x = .error e → e.OfEntries)
    (hshapes : [⟨m, n⟩] = r.shapes) (hnumbers : 0 = r.count) :
    r.Lawful ((single ((do return ⟨m, n, ← x⟩ : Except _ (DenseMatrix Float)).mapError .refused)).map
      (Answer.map DenseMatrix.flat)) := by
  cases x with
  | ok t => exact answered_single hfits hplaced hshapes hnumbers
  | error e =>
    have he := hx e rfl
    cases e with
    | singular column pivot => exact lawful_failed hfits hplaced ⟨id, id, id, id⟩
    | notPositiveDefinite row value => exact lawful_failed hfits hplaced ⟨id, id, id, id⟩
    | _ => exact he.elim

lemma lawful_meaning (harrange : ∀ n lawful before (f : Fin n → Float), (arrange n lawful before f).isSome)
    (r : Request (DenseMatrix Float)) :
    (r.map DenseMatrix.shape).Lawful ((r.meaning (.arranged arrange)).map (Answer.map DenseMatrix.flat)) := by
  cases r with
  | new rows cols data => exact lawful_single not_false (DenseMatrix.checked_ofData rows cols data) rfl rfl
  | zeros rows cols => exact lawful_single not_false (DenseMatrix.checked_made _ (List.mem_singleton_self _)) rfl rfl
  | identity n => exact lawful_single not_false (DenseMatrix.checked_made _ (List.mem_singleton_self _)) rfl rfl
  | diagonal values => exact lawful_single not_false (DenseMatrix.checked_made _ (List.mem_singleton_self _)) rfl rfl
  | ofRows rows => exact lawful_single not_false (DenseMatrix.checked_ofRows rows) rfl rfl
  | columnVector values => exact answered_single trivial not_false rfl rfl
  | ofDocument read text => exact lawful_ofDocument read text
  | get a r c =>
    rw [meaning, DenseMatrix.get, DenseMatrix.position]
    by_cases h : r < a.rows ∧ c < a.cols
    · rw [dif_pos h]
      exact ⟨trivial, not_not_intro h, fun _ hb => absurd hb List.not_mem_nil, rfl, rfl⟩
    · rw [dif_neg h]
      exact lawful_misplaced trivial trivial h id id
  | set a r c x =>
    rw [meaning, DenseMatrix.set, DenseMatrix.position]
    by_cases h : r < a.rows ∧ c < a.cols
    · rw [dif_pos h]
      exact answered_single trivial (not_not_intro h) rfl rfl
    · rw [dif_neg h]
      exact lawful_misplaced trivial trivial h id id
  | row a r =>
    rw [meaning, DenseMatrix.row]
    by_cases h : r < a.rows
    · rw [dif_pos h]
      exact answered_single trivial (not_not_intro h) rfl rfl
    · rw [dif_neg h]
      exact lawful_misplaced trivial trivial h id id
  | column a c =>
    rw [meaning, DenseMatrix.column]
    by_cases h : c < a.cols
    · rw [dif_pos h]
      exact answered_single trivial (not_not_intro h) rfl rfl
    · rw [dif_neg h]
      exact lawful_misplaced trivial trivial h id id
  | add a b =>
    exact lawful_single not_false ((DenseMatrix.checked_sameShape a b .add).bind id fun _ h _ => .ok _ h rfl) rfl rfl
  | sub a b =>
    exact lawful_single not_false ((DenseMatrix.checked_sameShape a b .sub).bind id fun _ h _ => .ok _ h rfl) rfl rfl
  | scale a s => exact answered_single trivial not_false rfl rfl
  | multiply a b =>
    exact lawful_single not_false (DenseMatrix.checked_multiply a b (List.mem_singleton_self _)) rfl rfl
  | transpose a => exact answered_single trivial not_false rfl rfl
  | inverse a =>
    exact lawful_square not_false id fun t h =>
      lawful_entries h not_false (fun _ => Table.inverse_error) rfl rfl
  | solve a b =>
    refine lawful_square not_false And.left fun t h => ?_
    by_cases hrows : b.rows = a.rows
    · rw [dif_pos hrows]
      exact lawful_entries ⟨h, hrows⟩ not_false (fun _ => Factors.solve_error) rfl rfl
    · rw [dif_neg hrows]
      exact lawful_mismatch (fun hfits => hrows hfits.2) not_false
  | cholesky a =>
    exact lawful_square not_false id fun t h =>
      lawful_entries h not_false (fun _ => Table.cholesky_error) rfl rfl
  | eigenSymmetric a =>
    rw [meaning, map_bind]
    refine lawful_checked (r := .eigenSymmetric a.shape) not_false
      (DenseMatrix.checked_eigenSymmetricBy harrange a []) id fun e h _ => ?_
    exact ⟨h, not_false, fun _ hb => List.mem_singleton.mp hb ▸ e.vectors.size_flat, rfl, e.values.size_toArray⟩
  | svd a =>
    rw [meaning, map_bind]
    refine lawful_checked (r := .svd a.shape) not_false
      (DenseMatrix.checked_singularValuesBy harrange a List.mem_cons_self
        (List.mem_cons_of_mem _ (List.mem_singleton_self _))) (fun _ => trivial) fun s _ _ => ?_
    refine ⟨trivial, not_false, fun b hb => ?_, rfl, s.values.size_toArray⟩
    rcases List.mem_cons.mp hb with rfl | hb
    · exact s.u.size_flat
    · exact List.mem_singleton.mp hb ▸ s.v.size_flat
  | reconstruct u values v => exact lawful_single not_false (DenseMatrix.checked_recompose u values v) rfl rfl
  | pseudoInverse a => exact lawful_single not_false (DenseMatrix.checked_pseudoInverseBy harrange a) rfl rfl

end

end Request

end Navigation
