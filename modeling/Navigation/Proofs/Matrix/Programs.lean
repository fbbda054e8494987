import Mathlib
import Navigation.Proofs.Matrix.Contract

/-! Programs that call one operation after the other on the matrices they have made. -/

namespace Navigation

namespace Request

variable {M N : Type}

def on (empty : M) (file : List M) (r : Request ℕ) : Request M := r.map fun i => file.getD i empty

def step (empty : M) (reply : Request M → Except (Fault Float) (Answer M)) (file : List M) (r : Request ℕ) :
    List M :=
  match reply (r.on empty file) with
  | .ok x => file ++ x.matrices
  | .error _ => file

def after (empty : M) (reply : Request M → Except (Fault Float) (Answer M)) (program : List (Request ℕ)) :
    List M :=
  program.foldl (step empty reply) []

section

variable {f : M → N} (empty : M) {reply : Request M → Except (Fault Float) (Answer M)}
  {reply' : Request N → Except (Fault Float) (Answer N)}

lemma on_map (file : List M) (r : Request ℕ) : r.on (f empty) (file.map f) = (r.on empty file).map f := by
  rw [on, on, map_map]
  exact congrArg (Request.map · r) (funext fun i => List.getD_map file empty f)

lemma step_map (h : ∀ r, reply' (r.map f) = (reply r).map (Answer.map f)) (file : List M) (r : Request ℕ) :
    step (f empty) reply' (file.map f) r = (step empty reply file r).map f := by
  rw [step, step, on_map, h]
  cases reply (r.on empty file) with
  | ok x => exact List.map_append.symm
  | error fault => rfl

lemma after_map (h : ∀ r, reply' (r.map f) = (reply r).map (Answer.map f)) (program : List (Request ℕ)) :
    after (f empty) reply' program = (after empty reply program).map f := by
  have hrun (file : List M) :
      program.foldl (step (f empty) reply') (file.map f) = (program.foldl (step empty reply) file).map f :=
    List.foldl_hom (List.map f) fun file r => step_map empty h file r
  exact hrun []

end

end Request

def DenseMatrix.empty : DenseMatrix Float := ⟨0, 0, ⟨#v[]⟩⟩

def DenseMatrix.after (d : Decompositions) (program : List (Request ℕ)) : List (DenseMatrix Float) :=
  Request.after empty (Request.meaning d) program

def FlatMatrix.empty : FlatMatrix Float := ⟨0, 0, #[]⟩

def FlatMatrix.after (sort : Sorter Float) (program : List (Request ℕ)) : List (FlatMatrix Float) :=
  Request.after empty (Request.answer sort) program

namespace Request

def next (sort : Sorter Float) (program : List (Request ℕ)) (r : Request ℕ) : Request (FlatMatrix Float) :=
  r.on FlatMatrix.empty (FlatMatrix.after sort program)

variable {sort : Sorter Float} {arrange : Arranger Float}

lemma after_flat (h : sort.Follows arrange) (program : List (Request ℕ)) :
    FlatMatrix.after sort program = (DenseMatrix.after (.arranged arrange) program).map DenseMatrix.flat :=
  after_map DenseMatrix.empty (fun r => answer_flat h r) program

lemma next_flat (h : sort.Follows arrange) (program : List (Request ℕ)) (r : Request ℕ) :
    r.next sort program =
      (r.on DenseMatrix.empty (DenseMatrix.after (.arranged arrange) program)).map DenseMatrix.flat := by
  rw [next, after_flat h]
  exact on_map DenseMatrix.empty _ r

/-- A program on buffers runs as it does on matrices. However values are sorted, the buffers are of the size
their shapes say, and the next request is answered or refused as its operands call for: no access is outside. -/
theorem answer_next (program : List (Request ℕ)) (r : Request ℕ) :
    (FlatMatrix.after .standard program = (DenseMatrix.after .standard program).map DenseMatrix.flat ∧
      (r.next .standard program).answer .standard =
        ((r.on DenseMatrix.empty (DenseMatrix.after .standard program)).meaning .standard).map
          (Answer.map DenseMatrix.flat)) ∧
    ∀ sort : Sorter Float, sort.Permutes →
      (∀ a ∈ FlatMatrix.after sort program, a.Sound) ∧
        ((r.next sort program).map FlatMatrix.shape).Lawful ((r.next sort program).answer sort) := by
  refine ⟨?_, fun sort hsort => ?_⟩
  · have hfollows := Sorter.standard_follows (α := Float)
    rw [next_flat hfollows, answer_flat hfollows, after_flat hfollows, Decompositions.arranged_standard]
    exact ⟨rfl, rfl⟩
  · obtain ⟨arrange, hfollows, harrange⟩ := hsort.exists_arranger
    rw [next_flat hfollows, answer_flat hfollows, after_flat hfollows, map_map]
    refine ⟨fun a ha => ?_, lawful_meaning harrange _⟩
    obtain ⟨b, -, rfl⟩ := List.mem_map.mp ha
    exact b.table.size_flat

def patient : Sorter Float := fun _ before items => some (Ranking.sort before items)

lemma permutes_patient : patient.Permutes := fun _ before items =>
  ⟨Ranking.sort before items, rfl, Ranking.perm_sort before items⟩

theorem answer_next_multiply :
    (FlatMatrix.after patient [.zeros 2 3, .transpose 0]).map FlatMatrix.shape = [⟨2, 3⟩, ⟨3, 2⟩] ∧
      ((multiply 0 0).next patient [.zeros 2 3, .transpose 0]).answer patient =
        .error (.refused (.mismatch .multiply ⟨2, 3⟩ ⟨2, 3⟩)) ∧
      (multiply ⟨2, 3⟩ ⟨2, 3⟩).Refused (.refused (.mismatch .multiply ⟨2, 3⟩ ⟨2, 3⟩)) :=
  ⟨rfl, rfl, ((answer_next [.zeros 2 3, .transpose 0] (multiply 0 0)).2 patient permutes_patient).2⟩

end Request

end Navigation
