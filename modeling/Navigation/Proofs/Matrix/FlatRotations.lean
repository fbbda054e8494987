import Mathlib
import Navigation.Matrix.SingularValues
import Navigation.Proofs.Matrix.FlatMatrix

/-! Rotations in place, and the eigenpairs and singular values they lead to. -/

namespace Navigation

open Buffer

/-- A sort of values with their positions by a comparison, which may be known to be lawful. It has no
answer where it finds the comparison to contradict itself. -/
abbrev Sorter (α : Type) : Type := Bool → (α × ℕ → α × ℕ → Bool) → List (α × ℕ) → Option (List (α × ℕ))

abbrev Arranger (α : Type) : Type :=
  (n : ℕ) → Bool → (α × ℕ → α × ℕ → Bool) → (Fin n → α) → Option (Vector (Fin n) n)

def Arranger.standard {α : Type} : Arranger α := fun _ lawful before f =>
  Ranking.order? lawful fun i j => before (f i, i.val) (f j, j.val)

namespace Sorter

variable {α : Type} {n : ℕ}

def Permutes (sort : Sorter α) : Prop :=
  ∀ lawful before items, ∃ sorted, sort lawful before items = some sorted ∧ sorted.Perm items

def standard : Sorter α := fun lawful before items =>
  (Arranger.standard items.length lawful before fun i => items[i].1).map fun order =>
    order.toList.map fun i => items[i]

def arranged (f : Fin n → α) (order : Vector (Fin n) n) : List (α × ℕ) :=
  order.toList.map fun i => (f i, i.val)

@[simp] lemma length_arranged (f : Fin n → α) (order : Vector (Fin n) n) : (arranged f order).length = n := by
  simp [arranged]

lemma map_snd_arranged (f : Fin n → α) (order : Vector (Fin n) n) :
    (arranged f order).map Prod.snd = order.toList.map Fin.val := by
  rw [arranged, List.map_map]
  rfl

lemma map_fst_arranged (f : Fin n → α) (order : Vector (Fin n) n) :
    ((arranged f order).map Prod.fst).toArray = (order.map f).toArray := by
  rw [arranged, List.map_map]
  exact Array.ext (by simp) fun i hi hi' => by simp

def Follows (sort : Sorter α) (arrange : Arranger α) : Prop :=
  ∀ (n : ℕ) (lawful : Bool) (before : α × ℕ → α × ℕ → Bool) (f : Fin n → α),
    sort lawful before (Array.ofFn f).toList.zipIdx = (arrange n lawful before f).map (arranged f)

lemma zipIdx_ofFn (f : Fin n → α) : (Array.ofFn f).toList.zipIdx = List.ofFn fun i => (f i, i.val) :=
  List.ext_getElem (by simp) fun i hi hi' => by simp

lemma standard_follows : (standard : Sorter α).Follows Arranger.standard := by
  intro n lawful before f
  have hgeneral (items : List (α × ℕ)) (hn : items.length = n) (h : ∀ i : Fin n, items[i] = (f i, i.val)) :
      standard lawful before items = (Arranger.standard n lawful before f).map (arranged f) := by
    subst hn
    simp only [Fin.getElem_fin] at h
    simp only [standard, Fin.getElem_fin, h]
    rfl
  exact hgeneral _ (by simp) fun i => by simp

lemma exists_arranged (f : Fin n → α) {sorted : List (α × ℕ)}
    (h : sorted.Perm (Array.ofFn f).toList.zipIdx) : ∃ order, sorted = arranged f order := by
  rw [zipIdx_ofFn] at h
  have hmem : sorted ∈ Set.range (List.map fun i : Fin n => (f i, i.val)) := by
    rw [Set.range_list_map]
    intro x hx
    obtain ⟨i, rfl⟩ := (List.mem_ofFn' _ _).mp (h.mem_iff.mp hx)
    exact ⟨i, rfl⟩
  obtain ⟨order, rfl⟩ := hmem
  have hlen : order.length = n := by simpa using h.length_eq
  exact ⟨⟨order.toArray, by simpa using hlen⟩, rfl⟩

lemma Permutes.exists_arranger {sort : Sorter α} (h : sort.Permutes) :
    ∃ arrange : Arranger α, sort.Follows arrange ∧
      ∀ n lawful before (f : Fin n → α), (arrange n lawful before f).isSome := by
  have hall (n : ℕ) (lawful : Bool) (before : α × ℕ → α × ℕ → Bool) (f : Fin n → α) :
      ∃ order, sort lawful before (Array.ofFn f).toList.zipIdx = some (arranged f order) := by
    obtain ⟨sorted, hsort, hperm⟩ := h lawful before (Array.ofFn f).toList.zipIdx
    obtain ⟨order, rfl⟩ := exists_arranged f hperm
    exact ⟨order, hsort⟩
  exact ⟨fun n lawful before f => some (hall n lawful before f).choose,
    fun n lawful before f => (hall n lawful before f).choose_spec, fun _ _ _ _ => rfl⟩

end Sorter

structure FlatSvd (α : Type) where
  u : FlatMatrix α
  values : Array α
  v : FlatMatrix α

namespace FlatMatrix

variable {α : Type} [Scalar α]

def turnCols (n p q : ℕ) (cosine sine : α) (xs : Array α) : Except (Fault α) (Array α) :=
  loop 0 n (fun xs k => do
    let x ← load xs (k * n + p)
    let y ← load xs (k * n + q)
    let xs ← store xs (k * n + p) (cosine * x - sine * y)
    store xs (k * n + q) (sine * x + cosine * y)) xs

def turnRows (n p q : ℕ) (cosine sine : α) (xs : Array α) : Except (Fault α) (Array α) :=
  loop 0 n (fun xs k => do
    let x ← load xs (p * n + k)
    let y ← load xs (q * n + k)
    let xs ← store xs (p * n + k) (cosine * x - sine * y)
    store xs (q * n + k) (sine * x + cosine * y)) xs

def rotate (n p q : ℕ) (cosine sine : α) (d : Array α × Array α) : Except (Fault α) (Array α × Array α) := do
  let table ← turnCols n p q cosine sine d.1
  let table ← turnRows n p q cosine sine table
  let axes ← turnCols n p q cosine sine d.2
  return (table, axes)

def turn (n p q : ℕ) (d : Array α × Array α) : Except (Fault α) (Array α × Array α) := do
  let entry ← load d.1 (p * n + q)
  if entry == 0 then return d
  else
    let y ← load d.1 (q * n + q)
    let x ← load d.1 (p * n + p)
    let theta := (y - x) / (Scalar.ofNat 2 * entry)
    let sign : α := if Scalar.le 0 theta then 1 else -1
    let tangent := sign / (Scalar.abs theta + Scalar.sqrt (theta * theta + 1))
    let cosine := 1 / Scalar.sqrt (tangent * tangent + 1)
    rotate n p q cosine (tangent * cosine) d

def sweep (n : ℕ) (d : Array α × Array α) : Except (Fault α) (Array α × Array α) :=
  loop 0 n (fun d p => loop (p + 1) n (fun d q => turn n p q d) d) d

def offDiagonal (n : ℕ) (xs : Array α) : Except (Fault α) α :=
  loop 0 n (fun most p => loop (p + 1) n (fun most q => do
    let magnitude := Scalar.abs (← load xs (p * n + q))
    return if Scalar.lt most magnitude then magnitude else most) most) 0

def sweeps (n : ℕ) : ℕ → Array α × Array α → Except (Fault α) (Array α × Array α)
  | 0, d => do
    let _ ← offDiagonal n d.1
    return d
  | k + 1, d => do
    let off ← offDiagonal n d.1
    if Scalar.lt off Scalar.rotationTolerance then return d else sweeps n k (← sweep n d)

def gather (n : ℕ) (order : Array ℕ) (xs : Array α) : Except (Fault α) (Array α) :=
  loop 0 order.size (fun data dst => do
    let src ← load order dst
    fillColumn n n dst (fun r => load xs (r * n + src)) data) (Array.replicate (n * n) 0)

def eigenpairs (sort : Sorter α) (n : ℕ) (d : Array α × Array α) :
    Except (Fault α) (Array α × FlatMatrix α) := do
  let keys ← collect n fun i => load d.1 (i * n + i)
  match sort (keys.all fun x => x == x) (fun x y => Scalar.lt (Scalar.abs y.1) (Scalar.abs x.1))
      keys.toList.zipIdx with
  | none => refuse .unordered
  | some sorted =>
    let order := (sorted.map Prod.snd).toArray
    let values ← collect order.size fun k => do
      let i ← load order k
      load d.1 (i * n + i)
    let vectors ← gather n order d.2
    return (values, ⟨n, n, vectors⟩)

def eigenSymmetric (sort : Sorter α) (a : FlatMatrix α) : Except (Fault α) (Array α × FlatMatrix α) := do
  a.checkSquare .eigenSymmetric
  let n := a.rows
  let axes ← loop 0 n (fun data i => store data (i * n + i) 1) (Array.replicate (n * n) 0)
  let d ← sweeps n (100 * n * n) (a.data, axes)
  eigenpairs sort n d

def leftVectors (image : FlatMatrix α) (values : Array α) : Except (Fault α) (FlatMatrix α) := do
  let m := image.rows
  let n := image.cols
  let u ← loop 0 values.size (fun u j => do
    let s ← load values j
    if Scalar.le s Scalar.singularTolerance then return u
    else fillColumn m n j (fun r => do return (← load image.data (r * n + j)) / s) u) (Array.replicate (m * n) 0)
  return ⟨m, n, u⟩

def ofEigenpairs (sort : Sorter α) (a : FlatMatrix α) (values : Array α) (vectors : FlatMatrix α) :
    Except (Fault α) (FlatSvd α) :=
  match sort true (fun x y => Scalar.lt y.1 x.1) (values.map SingularValues.clampedRoot).toList.zipIdx with
  | none => refuse .unordered
  | some pairs => do
    let k := pairs.length
    let values := (pairs.map Prod.fst).toArray
    let v ← gather k (pairs.map Prod.snd).toArray vectors.data
    let image ← a.multiply ⟨k, k, v⟩
    let u ← leftVectors image values
    return ⟨u, values, ⟨k, k, v⟩⟩

def svd (sort : Sorter α) (a : FlatMatrix α) : Except (Fault α) (FlatSvd α) := do
  let t ← a.transpose
  let products ← t.multiply a
  let (values, vectors) ← products.eigenSymmetric sort
  a.ofEigenpairs sort values vectors

end FlatMatrix

namespace FlatSvd

variable {α : Type} [Scalar α]

def reconstruct (s : FlatSvd α) : Except (Fault α) (FlatMatrix α) := do
  let product ← s.u.multiply (← FlatMatrix.diagonal s.values)
  product.multiply (← s.v.transpose)

def tolerance (s : FlatSvd α) : α :=
  let greatest := s.values.toList.head?.getD 0
  let relative := Scalar.ofNat (max s.u.rows s.v.rows) * greatest * Scalar.sqrt Scalar.epsilon
  if Scalar.lt Scalar.singularTolerance relative then relative else Scalar.singularTolerance

def pseudoInverse (s : FlatSvd α) : Except (Fault α) (FlatMatrix α) := do
  let tolerance := s.tolerance
  let inverses := s.values.map fun x => if Scalar.lt tolerance x then 1 / x else 0
  let product ← s.v.multiply (← FlatMatrix.diagonal inverses)
  product.multiply (← s.u.transpose)

end FlatSvd

def FlatMatrix.pseudoInverse {α : Type} [Scalar α] (sort : Sorter α) (a : FlatMatrix α) :
    Except (Fault α) (FlatMatrix α) :=
  if a.rows < a.cols then do
    let s ← (← a.transpose).svd sort
    (← s.pseudoInverse).transpose
  else do
    let s ← a.svd sort
    s.pseudoInverse

namespace FlatMatrix

variable {α : Type} [Scalar α] {n : ℕ}

lemma turnCols_flat (r : Rotation n α) (h : r.p ≠ r.q) (t : Table n n α) :
    turnCols n r.p r.q r.cosine r.sine t.flat = .ok (r.turnCols t).flat := by
  refine Table.loop_patch (fun k i j => i < k ∧ (j = r.p ∨ j = r.q)) (Nat.zero_le n) (by simp) ?_ fun k _ => ?_
  · intro i j
    by_cases hj : j = r.p ∨ j = r.q
    · exact .inl ⟨i.isLt, hj⟩
    · obtain ⟨hp, hq⟩ := not_or.mp hj
      exact .inr (by simp [Rotation.turnCols, hp, hq])
  · rw [Table.load_patch (by simp), ok_bind, Table.load_patch (by simp), ok_bind,
      Table.store_patch (by simp [Rotation.turnCols]), ok_bind]
    exact Table.store_patch_last (by simp [Rotation.turnCols, h.symm]) fun i' j' => by
      simp only [Fin.ext_iff]
      omega

lemma turnRows_flat (r : Rotation n α) (h : r.p ≠ r.q) (t : Table n n α) :
    turnRows n r.p r.q r.cosine r.sine t.flat = .ok (r.turnRows t).flat := by
  refine Table.loop_patch (fun k i j => j < k ∧ (i = r.p ∨ i = r.q)) (Nat.zero_le n) (by simp) ?_ fun k _ => ?_
  · intro i j
    by_cases hi : i = r.p ∨ i = r.q
    · exact .inl ⟨j.isLt, hi⟩
    · obtain ⟨hp, hq⟩ := not_or.mp hi
      exact .inr (by simp [Rotation.turnRows, hp, hq])
  · rw [Table.load_patch (by simp), ok_bind, Table.load_patch (by simp), ok_bind,
      Table.store_patch (by simp [Rotation.turnRows]), ok_bind]
    exact Table.store_patch_last (by simp [Rotation.turnRows, h.symm]) fun i' j' => by
      simp only [Fin.ext_iff]
      omega

end FlatMatrix

namespace Diagonalization

variable {α : Type} [Scalar α] {n : ℕ}

def flat (d : Diagonalization n α) : Array α × Array α := (d.table.flat, d.axes.flat)

lemma rotate_flat (d : Diagonalization n α) (r : Rotation n α) (h : r.p ≠ r.q) :
    FlatMatrix.rotate n r.p r.q r.cosine r.sine d.flat = .ok (d.turn r).flat := by
  rw [FlatMatrix.rotate, flat, FlatMatrix.turnCols_flat r h, ok_bind, FlatMatrix.turnRows_flat r h, ok_bind,
    FlatMatrix.turnCols_flat r h]
  rfl

lemma turn_flat (d : Diagonalization n α) {p q : Fin n} (h : p < q) :
    FlatMatrix.turn n p q d.flat = .ok (d.step p q).flat := by
  rw [FlatMatrix.turn, step, flat, d.table.load_flat, ok_bind]
  split
  · rfl
  · rw [d.table.load_flat, ok_bind, d.table.load_flat, ok_bind]
    exact rotate_flat d (Rotation.clearing d.table p q) h.ne

lemma sweep_flat (d : Diagonalization n α) : FlatMatrix.sweep n d.flat = .ok d.sweep.flat :=
  loop_fold flat _ (Nat.zero_le n) le_rfl (fun d p _ _ =>
    loop_fold flat _ p.isLt le_rfl (fun d q hq _ => by rw [turn_flat d hq, if_pos (Fin.lt_def.mpr hq)])
      (fun d q hq => if_neg (by omega)) d) (by omega) d

lemma offDiagonal_flat (d : Diagonalization n α) :
    FlatMatrix.offDiagonal n d.table.flat = .ok d.offDiagonal := by
  refine loop_fold id _ (Nat.zero_le n) le_rfl (fun most p _ _ =>
    loop_fold id _ p.isLt le_rfl (fun most q hq _ => ?_) (fun most q hq => ?_) most) (by omega) 0
  · have hpq : p < q := hq
    rw [d.table.load_flat, ok_bind]
    simp only [hpq, decide_true, Bool.true_and]
    rfl
  · have hpq : ¬p < q := by omega
    simp [hpq]

lemma sweeps_flat (k : ℕ) (d : Diagonalization n α) : FlatMatrix.sweeps n k d.flat = .ok (d.run k).flat := by
  induction k generalizing d with
  | zero =>
    rw [FlatMatrix.sweeps]
    exact congrArg (· >>= _) d.offDiagonal_flat
  | succ k ih =>
    rw [FlatMatrix.sweeps, run]
    refine (congrArg (· >>= _) d.offDiagonal_flat).trans ?_
    rw [ok_bind]
    split
    · rfl
    · rw [sweep_flat, ok_bind, ih]

end Diagonalization

def Eigenpairs.arrange? {α : Type} [Scalar α] {n : ℕ} (arrange : Arranger α) (t : Table n n α) :
    Option (Eigenpairs n α) :=
  let d := Diagonalization.ofTable t
  (arrange n ((Array.ofFn fun i => d.table.get i i).all fun x => x == x)
    (fun x y => Scalar.lt (Scalar.abs y.1) (Scalar.abs x.1)) fun i => d.table.get i i).map (ofOrder d)

namespace FlatMatrix

variable {α : Type} [Scalar α] {n : ℕ}

omit [Scalar α] in
lemma load_order (order : Vector (Fin n) n) (k : Fin n) :
    (load (order.toList.map Fin.val).toArray k : Except (Fault α) ℕ) = .ok (order.get k).val := by
  refine (load_eq (by simp)).trans ?_
  simp [Vector.get_eq_getElem]

lemma gather_flat (order : Vector (Fin n) n) (t : Table n n α) :
    gather n (order.toList.map Fin.val).toArray t.flat = .ok (t.gatherCols order).flat := by
  have hsize : (order.toList.map Fin.val).toArray.size = n := by simp
  rw [gather, hsize]
  refine loop_columns (t.gatherCols order) fun k => ?_
  rw [load_order order k, ok_bind]
  refine fillColumn_flat (t.gatherCols order) k _ fun i => ?_
  rw [t.load_flat, Table.gatherCols, Table.get_ofFn]
  rfl

omit [Scalar α] in
lemma collect_diagonal (d : Diagonalization n α) : collect n (fun i => load d.flat.1 (i * n + i)) =
    (.ok (Array.ofFn fun i => d.table.get i i) : Except (Fault α) (Array α)) :=
  collect_eq fun i => d.table.load_flat i i

lemma eigenSymmetric_flat {sort : Sorter α} {arrange : Arranger α} (h : sort.Follows arrange) (t : Table n n α) :
    eigenSymmetric sort ⟨n, n, t.flat⟩ = match Eigenpairs.arrange? arrange t with
      | none => refuse .unordered
      | some e => .ok (e.values.toArray, ⟨n, n, e.vectors.flat⟩) := by
  have hcheck : checkSquare (⟨n, n, t.flat⟩ : FlatMatrix α) .eigenSymmetric = .ok () := if_neg (not_not_intro rfl)
  rw [eigenSymmetric, hcheck, ok_bind]
  dsimp only
  rw [loop_identity, ok_bind]
  refine (congrArg (· >>= _) (Diagonalization.sweeps_flat (100 * n * n) ⟨t, Table.identity⟩)).trans ?_
  rw [ok_bind, ← Diagonalization.ofTable]
  unfold Eigenpairs.arrange?
  generalize Diagonalization.ofTable t = d
  dsimp only
  rw [eigenpairs, collect_diagonal, ok_bind, h]
  cases arrange n ((Array.ofFn fun i => d.table.get i i).all fun x => x == x)
    (fun x y => Scalar.lt (Scalar.abs y.1) (Scalar.abs x.1)) fun i => d.table.get i i with
  | none => rfl
  | some order =>
    have hvalues : collect n (fun k => do
        let i ← load (order.toList.map Fin.val).toArray k
        load d.flat.1 (i * n + i)) =
        (.ok (Eigenpairs.ofOrder d order).values.toArray : Except (Fault α) (Array α)) := by
      rw [collect_eq fun k => by rw [load_order order k, ok_bind]; exact d.table.load_flat (order.get k) (order.get k)]
      refine congrArg Except.ok (Array.ext (by simp) fun k hk hk' => ?_)
      simp [Eigenpairs.ofOrder, Vector.get_eq_getElem]
    have hsize : (order.toList.map Fin.val).toArray.size = n := by simp
    dsimp only [Option.map]
    rw [Sorter.map_snd_arranged, hsize, hvalues, ok_bind]
    exact congrArg (· >>= _) (gather_flat order d.axes)

end FlatMatrix

namespace SingularValues

variable {α : Type} [Scalar α] {m n : ℕ}

def left (image : Table m n α) (values : Vector α n) : Table m n α :=
  Table.ofFn fun i j =>
    if Scalar.le (values.get j) Scalar.singularTolerance then 0 else image.get i j / values.get j

def ofOrder (t : Table m n α) (e : Eigenpairs n α) (order : Vector (Fin n) n) : SingularValues m n α :=
  let values := order.map (e.values.map clampedRoot).get
  let v := e.vectors.gatherCols order
  ⟨left (t.mul v) values, values, v⟩

def arrange? (arrange : Arranger α) (t : Table m n α) : Option (SingularValues m n α) :=
  (Eigenpairs.arrange? arrange (t.transpose.mul t)).bind fun e =>
    (arrange n true (fun x y => Scalar.lt y.1 x.1) (e.values.map clampedRoot).get).map (ofOrder t e)

def flat (s : SingularValues m n α) : FlatSvd α := ⟨⟨m, n, s.u.flat⟩, s.values.toArray, ⟨n, n, s.v.flat⟩⟩

end SingularValues

namespace FlatMatrix

variable {α : Type} [Scalar α] {m n : ℕ}

lemma leftVectors_flat (image : Table m n α) (values : Vector α n) :
    leftVectors ⟨m, n, image.flat⟩ values.toArray = .ok ⟨m, n, (SingularValues.left image values).flat⟩ := by
  have hsize : values.toArray.size = n := by simp
  rw [leftVectors]
  dsimp only
  rw [hsize]
  refine congrArg (· >>= _) (loop_columns (SingularValues.left image values) fun j => ?_)
  have hload : (load values.toArray j : Except (Fault α) α) = .ok (values.get j) := load_eq (by simp)
  rw [hload, ok_bind]
  split
  · rename_i hsmall
    refine congrArg (fun t => Except.ok (Table.flat t)) (Table.patch_congr fun i j' => ?_)
    by_cases hj : j' = j
    · exact .inr (by simp [SingularValues.left, hj, hsmall, get_zero])
    · exact .inl (by omega)
  · rename_i hlarge
    refine fillColumn_flat (SingularValues.left image values) j _ fun i => ?_
    rw [image.load_flat, SingularValues.left, Table.get_ofFn, if_neg hlarge]
    rfl

lemma ofEigenpairs_flat {sort : Sorter α} {arrange : Arranger α} (h : sort.Follows arrange) (t : Table m n α)
    (e : Eigenpairs n α) : ofEigenpairs sort ⟨m, n, t.flat⟩ e.values.toArray ⟨n, n, e.vectors.flat⟩ =
      match arrange n true (fun x y => Scalar.lt y.1 x.1) (e.values.map SingularValues.clampedRoot).get with
      | none => refuse .unordered
      | some order => do
        let _ ← area m n
        return (SingularValues.ofOrder t e order).flat := by
  have hroots : e.values.toArray.map SingularValues.clampedRoot =
      Array.ofFn (e.values.map SingularValues.clampedRoot).get :=
    Array.ext (by simp) fun i hi hi' => by simp [Vector.get_eq_getElem]
  rw [ofEigenpairs, hroots, h]
  cases arrange n true (fun x y => Scalar.lt y.1 x.1) (e.values.map SingularValues.clampedRoot).get with
  | none => rfl
  | some order =>
    simp only [Option.map_some, Sorter.length_arranged, Sorter.map_snd_arranged, Sorter.map_fst_arranged,
      gather_flat, ok_bind, multiply_flat]
    cases (area m n : Except (Fault α) ℕ) with
    | error fault => rfl
    | ok size =>
      have hleft := leftVectors_flat (t.mul (e.vectors.gatherCols order))
        (order.map (e.values.map SingularValues.clampedRoot).get)
      simp only [ok_bind, pure_bind]
      exact congrArg (· >>= _) hleft

end FlatMatrix

namespace DenseMatrix

variable {α : Type} [Scalar α]

def eigenSymmetricBy (arrange : Arranger α) (a : DenseMatrix α) : Except (Error α) (Eigenpairs a.rows α) := do
  let t ← a.square .eigenSymmetric
  match Eigenpairs.arrange? arrange t with
  | some e => return e
  | none => throw .unordered

def singularValuesBy (arrange : Arranger α) (a : DenseMatrix α) :
    Except (Error α) (SingularValues a.rows a.cols α) := do
  let _ ← area a.cols a.cols
  match SingularValues.arrange? arrange a.table with
  | some s =>
    let _ ← area a.rows a.cols
    return s
  | none => throw .unordered

def pseudoInverseBy (arrange : Arranger α) (a : DenseMatrix α) : Except (Error α) (DenseMatrix α) := do
  if a.rows < a.cols then
    let s ← a.transpose.singularValuesBy arrange
    return ⟨a.cols, a.rows, s.pseudoInverse.transpose⟩
  else
    let s ← a.singularValuesBy arrange
    return ⟨a.cols, a.rows, s.pseudoInverse⟩

lemma arrange?_standard {n : ℕ} (t : Table n n α) :
    Eigenpairs.arrange? Arranger.standard t = Eigenpairs.ofTable? t := by
  have hall (f : Fin n → α) : (Array.ofFn f).all (fun x => x == x) = (List.finRange n).all fun i => f i == f i := by
    rw [← Array.all_toList, Array.toList_ofFn, List.ofFn_eq_map, List.all_map]
    rfl
  rw [Eigenpairs.arrange?, Eigenpairs.ofTable?, Eigenpairs.ofDiagonalization?, hall]
  rfl

lemma eigenSymmetricBy_standard (a : DenseMatrix α) :
    a.eigenSymmetricBy Arranger.standard = a.eigenSymmetric := by
  rw [eigenSymmetricBy, eigenSymmetric]
  cases a.square .eigenSymmetric with
  | error e => rfl
  | ok t =>
    have harrange := arrange?_standard t
    cases h : Eigenpairs.ofTable? t with
    | none =>
      rw [h] at harrange
      simp only [ok_bind, harrange, h]
    | some e =>
      rw [h] at harrange
      simp only [ok_bind, harrange, h]

lemma singularValuesBy_standard (a : DenseMatrix α) :
    a.singularValuesBy Arranger.standard = a.singularValues := by
  rw [singularValuesBy, singularValues, SingularValues.arrange?, SingularValues.ofTable?, arrange?_standard]
  cases Eigenpairs.ofTable? (a.table.transpose.mul a.table) <;> rfl

lemma pseudoInverseBy_standard (a : DenseMatrix α) :
    a.pseudoInverseBy Arranger.standard = a.pseudoInverse := by
  simp only [pseudoInverseBy, pseudoInverse, singularValuesBy_standard]

end DenseMatrix

namespace FlatMatrix

variable {α : Type} [Scalar α] {sort : Sorter α} {arrange : Arranger α}

lemma eigenSymmetric_eq (h : sort.Follows arrange) (a : DenseMatrix α) : eigenSymmetric sort a.flat =
    ((a.eigenSymmetricBy arrange).map fun e =>
      (e.values.toArray, ⟨a.rows, a.rows, e.vectors.flat⟩)).mapError .refused := by
  rw [DenseMatrix.eigenSymmetricBy]
  rcases square_cases a .eigenSymmetric with ⟨n, t, rfl, -⟩ | ⟨-, hsquare, hcheck⟩
  · rw [square_self]
    refine (eigenSymmetric_flat h t).trans ?_
    rw [ok_bind]
    cases Eigenpairs.arrange? arrange t <;> rfl
  · rw [eigenSymmetric, hcheck, hsquare]
    rfl

lemma svd_eq (h : sort.Follows arrange) (a : DenseMatrix α) : svd sort a.flat =
    ((a.singularValuesBy arrange).map SingularValues.flat).mapError .refused := by
  obtain ⟨m, n, t⟩ := a
  rw [svd, DenseMatrix.singularValuesBy]
  dsimp only [DenseMatrix.flat]
  rw [transpose_flat, ok_bind, multiply_flat]
  rcases area_cases n n with ⟨reason, harea, -⟩ | harea
  · rw [harea, area, harea]
    rfl
  · rw [harea, area, harea]
    simp only [Except.mapError, ok_bind, pure_bind]
    refine (congrArg (· >>= _) (eigenSymmetric_flat h (t.transpose.mul t))).trans ?_
    rw [SingularValues.arrange?]
    cases Eigenpairs.arrange? arrange (t.transpose.mul t) with
    | none => rfl
    | some e =>
      refine (ofEigenpairs_flat h t e).trans ?_
      rw [Option.bind_some]
      cases arrange n true (fun x y => Scalar.lt y.1 x.1) (e.values.map SingularValues.clampedRoot).get with
      | none => rfl
      | some order =>
        dsimp only [Option.map_some]
        rw [area]
        cases (DenseMatrix.area m n : Except (DenseMatrix.Error α) ℕ) <;> rfl

end FlatMatrix

namespace FlatSvd

variable {α : Type} [Scalar α] {m n : ℕ}

lemma diagonal_flat (values : Vector α n)
    (hn : DenseMatrix.area n n = (.ok (n * n) : Except (DenseMatrix.Error α) ℕ)) :
    FlatMatrix.diagonal values.toArray = .ok ⟨n, n, (Table.diagonal values).flat⟩ := by
  obtain ⟨values, rfl⟩ := values
  rw [FlatMatrix.diagonal_eq, DenseMatrix.diagonal, hn]
  rfl

lemma tolerance_flat (s : SingularValues m n α) : s.flat.tolerance = s.tolerance := rfl

lemma pseudoInverse_flat (s : SingularValues m n α)
    (hn : DenseMatrix.area n n = (.ok (n * n) : Except (DenseMatrix.Error α) ℕ))
    (hm : DenseMatrix.area m n = (.ok (m * n) : Except (DenseMatrix.Error α) ℕ)) :
    s.flat.pseudoInverse = .ok ⟨n, m, s.pseudoInverse.flat⟩ := by
  have hm' : DenseMatrix.area n m = (.ok (n * m) : Except (DenseMatrix.Error α) ℕ) := by
    rw [FlatMatrix.area_comm, hm, Nat.mul_comm]
  have hinverses : s.flat.values.map (fun x => if Scalar.lt s.flat.tolerance x then 1 / x else 0) =
      (s.values.map fun x => if Scalar.lt s.tolerance x then 1 / x else 0).toArray := by
    rw [tolerance_flat, Vector.toArray_map]
    rfl
  rw [pseudoInverse, hinverses]
  dsimp only [SingularValues.flat]
  rw [diagonal_flat _ hn, ok_bind, FlatMatrix.multiply_flat, FlatMatrix.area, hn]
  simp only [Except.mapError, ok_bind, pure_bind]
  rw [FlatMatrix.transpose_flat, ok_bind, FlatMatrix.multiply_flat, FlatMatrix.area, hm']
  rfl

end FlatSvd

namespace FlatMatrix

variable {α : Type} [Scalar α] {sort : Sorter α} {arrange : Arranger α}

lemma singularValuesBy_ok {a : DenseMatrix α} {s : SingularValues a.rows a.cols α}
    (h : a.singularValuesBy arrange = .ok s) :
    DenseMatrix.area a.cols a.cols = (.ok (a.cols * a.cols) : Except (DenseMatrix.Error α) ℕ) ∧
      DenseMatrix.area a.rows a.cols = (.ok (a.rows * a.cols) : Except (DenseMatrix.Error α) ℕ) := by
  unfold DenseMatrix.singularValuesBy at h
  rcases area_cases a.cols a.cols with ⟨reason, hn, -⟩ | hn
  · rw [hn] at h
    cases h
  · rw [hn, ok_bind] at h
    cases hs : SingularValues.arrange? arrange a.table with
    | none =>
      rw [hs] at h
      cases h
    | some s' =>
      rcases area_cases a.rows a.cols with ⟨reason, hm, -⟩ | hm
      · rw [hs, hm] at h
        cases h
      · exact ⟨hn, hm⟩

lemma svd_pseudoInverse (h : sort.Follows arrange) (a : DenseMatrix α) : (do
    let s ← svd sort a.flat
    s.pseudoInverse) = outcome (do
      let s ← a.singularValuesBy arrange
      return ⟨a.cols, a.rows, s.pseudoInverse⟩) := by
  rw [svd_eq h]
  cases hs : a.singularValuesBy arrange with
  | error e => rfl
  | ok s =>
    obtain ⟨hn, hm⟩ := singularValuesBy_ok hs
    exact FlatSvd.pseudoInverse_flat s hn hm

lemma pseudoInverse_eq (h : sort.Follows arrange) (a : DenseMatrix α) :
    a.flat.pseudoInverse sort = outcome (a.pseudoInverseBy arrange) := by
  by_cases hwide : a.rows < a.cols
  · have htranspose : a.flat.transpose = .ok a.transpose.flat := transpose_flat a.table
    rw [DenseMatrix.pseudoInverseBy, if_pos hwide]
    refine (if_pos hwide).trans ?_
    rw [htranspose, ok_bind, ← bind_assoc, svd_pseudoInverse h]
    cases a.transpose.singularValuesBy arrange with
    | error e => rfl
    | ok s => exact transpose_flat s.pseudoInverse
  · rw [DenseMatrix.pseudoInverseBy, if_neg hwide]
    exact (if_neg hwide).trans (svd_pseudoInverse h a)

end FlatMatrix

end Navigation

