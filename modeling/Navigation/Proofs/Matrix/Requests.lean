import Mathlib
import Navigation.Proofs.Matrix.FlatInverse
import Navigation.Proofs.Matrix.FlatRotations

namespace Navigation

open Buffer

inductive Request (M : Type) where
  | new (rows cols : ℕ) (data : Array Float)
  | zeros (rows cols : ℕ)
  | identity (n : ℕ)
  | diagonal (values : Array Float)
  | ofRows (rows : List (List Float))
  | columnVector (values : Array Float)
  | ofDocument (read : List Char → Except Json.Failure DenseMatrix.Raw) (text : List Char)
  | get (a : M) (r c : ℕ)
  | set (a : M) (r c : ℕ) (x : Float)
  | row (a : M) (r : ℕ)
  | column (a : M) (c : ℕ)
  | add (a b : M)
  | sub (a b : M)
  | scale (a : M) (s : Float)
  | multiply (a b : M)
  | transpose (a : M)
  | inverse (a : M)
  | solve (a b : M)
  | cholesky (a : M)
  | eigenSymmetric (a : M)
  | svd (a : M)
  | reconstruct (u : M) (values : Array Float) (v : M)
  | pseudoInverse (a : M)

structure Answer (M : Type) where
  matrices : List M
  numbers : Array Float

namespace Answer

variable {M N : Type}

def map (f : M → N) (x : Answer M) : Answer N := ⟨x.matrices.map f, x.numbers⟩

def single (x : Except (Fault Float) M) : Except (Fault Float) (Answer M) := x.map fun a => ⟨[a], #[]⟩

lemma single_outcome (x : Except (DenseMatrix.Error Float) (DenseMatrix Float)) :
    single (FlatMatrix.outcome x) = (single (x.mapError .refused)).map (map DenseMatrix.flat) := by
  cases x <;> rfl

end Answer

open Answer (single)

section Documents

variable {M : Type} {read : List Char → Except Json.Failure DenseMatrix.Raw} {text : List Char}

def matrixOfText (read : List Char → Except Json.Failure DenseMatrix.Raw)
    (build : ℕ → ℕ → Array Float → Except (Fault Float) M) (text : List Char) : Except (Fault Float) M := do
  let raw ← (read text).mapError .unread
  let a ← build raw.rows raw.cols raw.data.toArray
  raw.rest.mapError .unread
  return a

def Fault.report : Fault Float → DenseMatrix.DocumentError
  | .unread failure => .failure failure
  | .refused (.overflow reason) => .overflow reason
  | _ => .failure .unfit

def DenseMatrix.new (rows cols : ℕ) (data : Array Float) : Except (Fault Float) (DenseMatrix Float) :=
  (ofData rows cols data).mapError .refused

lemma matrixOfText_of_error {failure : Json.Failure} (h : read text = .error failure)
    (build : ℕ → ℕ → Array Float → Except (Fault Float) M) :
    matrixOfText read build text = .error (.unread failure) := by
  rw [matrixOfText, h]
  rfl

lemma matrixOfText_of_ok {raw : DenseMatrix.Raw} (h : read text = .ok raw)
    (build : ℕ → ℕ → Array Float → Except (Fault Float) M) : matrixOfText read build text = (do
      let a ← build raw.rows raw.cols raw.data.toArray
      raw.rest.mapError .unread
      return a) := by
  rw [matrixOfText, h]
  rfl

theorem DenseMatrix.ofDocument_eq (read : List Char → Except Json.Failure Raw) (text : List Char) :
    ofDocument text read = (matrixOfText read new text).mapError Fault.report := by
  rw [ofDocument]
  cases h : read text with
  | error failure =>
    rw [matrixOfText_of_error h]
    rfl
  | ok raw =>
    rw [matrixOfText_of_ok h, new]
    simp only [Except.mapError, ok_bind]
    cases ofData raw.rows raw.cols raw.data.toArray with
    | error e => cases e <;> rfl
    | ok a => cases raw.rest <;> rfl

lemma FlatMatrix.matrixOfText_eq (read : List Char → Except Json.Failure DenseMatrix.Raw) (text : List Char) :
    matrixOfText read FlatMatrix.new text = (matrixOfText read DenseMatrix.new text).map DenseMatrix.flat := by
  cases h : read text with
  | error failure =>
    rw [matrixOfText_of_error h, matrixOfText_of_error h]
    rfl
  | ok raw =>
    rw [matrixOfText_of_ok h, matrixOfText_of_ok h, FlatMatrix.new_eq, DenseMatrix.new]
    cases DenseMatrix.ofData raw.rows raw.cols raw.data.toArray with
    | error e => rfl
    | ok a => cases raw.rest <;> rfl

end Documents

namespace DenseMatrix

variable {α : Type} [Scalar α]

def recompose (u : DenseMatrix α) (values : Array α) (v : DenseMatrix α) : Except (Error α) (DenseMatrix α) := do
  let product ← u.multiply (← diagonal values)
  product.multiply v.transpose

lemma reconstruct_eq (u : DenseMatrix α) (values : Array α) (v : DenseMatrix α) :
    FlatSvd.reconstruct ⟨u.flat, values, v.flat⟩ = FlatMatrix.outcome (u.recompose values v) := by
  have htranspose : v.flat.transpose = .ok v.transpose.flat := FlatMatrix.transpose_flat v.table
  rw [FlatSvd.reconstruct, recompose]
  dsimp only
  rw [FlatMatrix.diagonal_eq, htranspose]
  cases diagonal values with
  | error e => rfl
  | ok d =>
    simp only [FlatMatrix.outcome, Except.map, Except.mapError, ok_bind, FlatMatrix.multiply_eq]
    cases u.multiply d with
    | error e => rfl
    | ok product => exact FlatMatrix.multiply_eq product v.transpose

end DenseMatrix

structure Decompositions where
  eigenSymmetric : (a : DenseMatrix Float) → Except (DenseMatrix.Error Float) (Eigenpairs a.rows Float)
  singularValues : (a : DenseMatrix Float) →
    Except (DenseMatrix.Error Float) (SingularValues a.rows a.cols Float)
  pseudoInverse : DenseMatrix Float → Except (DenseMatrix.Error Float) (DenseMatrix Float)

namespace Decompositions

def standard : Decompositions :=
  ⟨DenseMatrix.eigenSymmetric, DenseMatrix.singularValues, DenseMatrix.pseudoInverse⟩

def arranged (arrange : Arranger Float) : Decompositions :=
  ⟨DenseMatrix.eigenSymmetricBy arrange, DenseMatrix.singularValuesBy arrange, DenseMatrix.pseudoInverseBy arrange⟩

lemma arranged_standard : arranged Arranger.standard = standard := by
  unfold arranged standard
  congr 1
  · exact funext DenseMatrix.eigenSymmetricBy_standard
  · exact funext DenseMatrix.singularValuesBy_standard
  · exact funext DenseMatrix.pseudoInverseBy_standard

end Decompositions

namespace Request

variable {M N : Type}

def map (f : M → N) : Request M → Request N
  | new rows cols data => new rows cols data
  | zeros rows cols => zeros rows cols
  | identity n => identity n
  | diagonal values => diagonal values
  | ofRows rows => ofRows rows
  | columnVector values => columnVector values
  | ofDocument read text => ofDocument read text
  | get a r c => get (f a) r c
  | set a r c x => set (f a) r c x
  | row a r => row (f a) r
  | column a c => column (f a) c
  | add a b => add (f a) (f b)
  | sub a b => sub (f a) (f b)
  | scale a s => scale (f a) s
  | multiply a b => multiply (f a) (f b)
  | transpose a => transpose (f a)
  | inverse a => inverse (f a)
  | solve a b => solve (f a) (f b)
  | cholesky a => cholesky (f a)
  | eigenSymmetric a => eigenSymmetric (f a)
  | svd a => svd (f a)
  | reconstruct u values v => reconstruct (f u) values (f v)
  | pseudoInverse a => pseudoInverse (f a)

lemma map_map {L : Type} (f : L → M) (g : M → N) (r : Request L) :
    (r.map f).map g = r.map fun a => g (f a) := by
  cases r <;> rfl

def answer (sort : Sorter Float) : Request (FlatMatrix Float) → Except (Fault Float) (Answer (FlatMatrix Float))
  | new rows cols data => single (FlatMatrix.new rows cols data)
  | zeros rows cols => single (FlatMatrix.zeros rows cols)
  | identity n => single (FlatMatrix.identity n)
  | diagonal values => single (FlatMatrix.diagonal values)
  | ofRows rows => single (FlatMatrix.ofRows rows)
  | columnVector values => single (.ok (FlatMatrix.columnVector values))
  | ofDocument read text => single (matrixOfText read FlatMatrix.new text)
  | get a r c => do return ⟨[], #[← a.get r c]⟩
  | set a r c x => single (a.set r c x)
  | row a r => single (a.row r)
  | column a c => single (a.column c)
  | add a b => single (a.add b)
  | sub a b => single (a.sub b)
  | scale a s => single (.ok (a.scale s))
  | multiply a b => single (a.multiply b)
  | transpose a => single a.transpose
  | inverse a => single a.inverse
  | solve a b => single (a.solve b)
  | cholesky a => single a.cholesky
  | eigenSymmetric a => do
    let (values, vectors) ← a.eigenSymmetric sort
    return ⟨[vectors], values⟩
  | svd a => do
    let s ← a.svd sort
    return ⟨[s.u, s.v], s.values⟩
  | reconstruct u values v => single (FlatSvd.reconstruct ⟨u, values, v⟩)
  | pseudoInverse a => single (a.pseudoInverse sort)

def meaning (d : Decompositions) : Request (DenseMatrix Float) → Except (Fault Float) (Answer (DenseMatrix Float))
  | new rows cols data => single (DenseMatrix.new rows cols data)
  | zeros rows cols => single ((DenseMatrix.zeros rows cols).mapError .refused)
  | identity n => single ((DenseMatrix.identity n).mapError .refused)
  | diagonal values => single ((DenseMatrix.diagonal values).mapError .refused)
  | ofRows rows => single ((DenseMatrix.ofRows rows).mapError .refused)
  | columnVector values => single (.ok (DenseMatrix.columnVector values))
  | ofDocument read text => single (matrixOfText read DenseMatrix.new text)
  | get a r c => do return ⟨[], #[← (a.get r c).mapError .refused]⟩
  | set a r c x => single ((a.set r c x).mapError .refused)
  | row a r => single ((a.row r).mapError .refused)
  | column a c => single ((a.column c).mapError .refused)
  | add a b => single ((a.add b).mapError .refused)
  | sub a b => single ((a.sub b).mapError .refused)
  | scale a s => single (.ok (a.scale s))
  | multiply a b => single ((a.multiply b).mapError .refused)
  | transpose a => single (.ok a.transpose)
  | inverse a => single (a.inverse.mapError .refused)
  | solve a b => single ((a.solve b).mapError .refused)
  | cholesky a => single (a.cholesky.mapError .refused)
  | eigenSymmetric a => do
    let e ← (d.eigenSymmetric a).mapError .refused
    return ⟨[⟨a.rows, a.rows, e.vectors⟩], e.values.toArray⟩
  | svd a => do
    let s ← (d.singularValues a).mapError .refused
    return ⟨[⟨a.rows, a.cols, s.u⟩, ⟨a.cols, a.cols, s.v⟩], s.values.toArray⟩
  | reconstruct u values v => single ((u.recompose values v).mapError .refused)
  | pseudoInverse a => single ((d.pseudoInverse a).mapError .refused)

theorem answer_flat {sort : Sorter Float} {arrange : Arranger Float} (h : sort.Follows arrange)
    (r : Request (DenseMatrix Float)) : (r.map DenseMatrix.flat).answer sort =
      (r.meaning (.arranged arrange)).map (Answer.map DenseMatrix.flat) := by
  cases r with
  | new rows cols data => exact (congrArg single (FlatMatrix.new_eq rows cols data)).trans (Answer.single_outcome _)
  | zeros rows cols => exact (congrArg single (FlatMatrix.zeros_eq rows cols)).trans (Answer.single_outcome _)
  | identity n => exact (congrArg single (FlatMatrix.identity_eq n)).trans (Answer.single_outcome _)
  | diagonal values => exact (congrArg single (FlatMatrix.diagonal_eq values)).trans (Answer.single_outcome _)
  | ofRows rows => exact (congrArg single (FlatMatrix.ofRows_eq rows)).trans (Answer.single_outcome _)
  | columnVector values => rfl
  | ofDocument read text =>
    refine (congrArg single (FlatMatrix.matrixOfText_eq read text)).trans ?_
    rw [meaning]
    cases matrixOfText read DenseMatrix.new text <;> rfl
  | get a r c =>
    refine (congrArg (· >>= _) (FlatMatrix.get_eq a r c)).trans ?_
    rw [meaning]
    cases a.get r c <;> rfl
  | set a r c x => exact (congrArg single (FlatMatrix.set_eq a r c x)).trans (Answer.single_outcome _)
  | row a r => exact (congrArg single (FlatMatrix.row_eq a r)).trans (Answer.single_outcome _)
  | column a c => exact (congrArg single (FlatMatrix.column_eq a c)).trans (Answer.single_outcome _)
  | add a b => exact (congrArg single (FlatMatrix.add_eq a b)).trans (Answer.single_outcome _)
  | sub a b => exact (congrArg single (FlatMatrix.sub_eq a b)).trans (Answer.single_outcome _)
  | scale a s => exact congrArg (fun a => single (.ok a)) (FlatMatrix.scale_eq a s)
  | multiply a b => exact (congrArg single (FlatMatrix.multiply_eq a b)).trans (Answer.single_outcome _)
  | transpose a => exact congrArg single (FlatMatrix.transpose_flat a.table)
  | inverse a => exact (congrArg single (FlatMatrix.inverse_eq a)).trans (Answer.single_outcome _)
  | solve a b => exact (congrArg single (FlatMatrix.solve_eq a b)).trans (Answer.single_outcome _)
  | cholesky a => exact (congrArg single (FlatMatrix.cholesky_eq a)).trans (Answer.single_outcome _)
  | eigenSymmetric a =>
    refine (congrArg (· >>= _) (FlatMatrix.eigenSymmetric_eq h a)).trans ?_
    rw [meaning, Decompositions.arranged]
    dsimp only
    cases a.eigenSymmetricBy arrange <;> rfl
  | svd a =>
    refine (congrArg (· >>= _) (FlatMatrix.svd_eq h a)).trans ?_
    rw [meaning, Decompositions.arranged]
    dsimp only
    cases a.singularValuesBy arrange <;> rfl
  | reconstruct u values v =>
    exact (congrArg single (DenseMatrix.reconstruct_eq u values v)).trans (Answer.single_outcome _)
  | pseudoInverse a => exact (congrArg single (FlatMatrix.pseudoInverse_eq h a)).trans (Answer.single_outcome _)

end Request

end Navigation
