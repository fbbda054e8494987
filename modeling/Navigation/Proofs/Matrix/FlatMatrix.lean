import Mathlib
import Navigation.Proofs.Matrix.Buffers

namespace Navigation

open Buffer

def Shape.Large (s : Shape) : Prop := Word.half ≤ DenseMatrix.entryBytes * (s.rows * s.cols)

lemma Shape.large_of_bound_le {s : Shape} (h : Word.bound ≤ s.rows * s.cols) : s.Large := by
  have hhalf : Word.half ≤ Word.bound := by decide
  exact hhalf.trans (h.trans (Nat.le_mul_of_pos_left _ (by decide)))

structure FlatMatrix (α : Type) where
  rows : ℕ
  cols : ℕ
  data : Array α

def DenseMatrix.flat {α : Type} (a : DenseMatrix α) : FlatMatrix α := ⟨a.rows, a.cols, a.table.flat⟩

namespace FlatMatrix

variable {α : Type}

def shape (a : FlatMatrix α) : Shape := ⟨a.rows, a.cols⟩

def Sound (a : FlatMatrix α) : Prop := a.data.size = a.rows * a.cols

def refuse {β : Type} (error : DenseMatrix.Error α) : Except (Fault α) β := .error (.refused error)

def area (rows cols : ℕ) : Except (Fault α) ℕ := (DenseMatrix.area rows cols).mapError .refused

def new (rows cols : ℕ) (data : Array α) : Except (Fault α) (FlatMatrix α) := do
  let size ← (Word.mul rows cols).mapError fun reason => .refused (.overflow reason)
  if data.size ≠ size then refuse (.mismatch .new ⟨rows, cols⟩ ⟨data.size, 1⟩)
  else return ⟨rows, cols, data⟩

def append (cols : ℕ) (data : Array α) (row : List α × ℕ) : Except (Fault α) (Array α) :=
  if row.1.length != cols then refuse (.mismatch .fromRows ⟨1, cols⟩ ⟨row.2, row.1.length⟩)
  else .ok (data ++ row.1)

def ofRows (rows : List (List α)) : Except (Fault α) (FlatMatrix α) := do
  let cols := (rows.head?.map List.length).getD 0
  let _ ← area rows.length cols
  let data ← rows.zipIdx.foldlM (append cols) #[]
  return ⟨rows.length, cols, data⟩

def columnVector (values : Array α) : FlatMatrix α := ⟨values.size, 1, values⟩

def get (a : FlatMatrix α) (r c : ℕ) : Except (Fault α) α :=
  if r < a.rows ∧ c < a.cols then load a.data (r * a.cols + c)
  else refuse (.entryOutside r c a.shape)

def set (a : FlatMatrix α) (r c : ℕ) (x : α) : Except (Fault α) (FlatMatrix α) :=
  if r < a.rows ∧ c < a.cols then do
    let data ← store a.data (r * a.cols + c) x
    return { a with data }
  else refuse (.entryOutside r c a.shape)

def row (a : FlatMatrix α) (r : ℕ) : Except (Fault α) (FlatMatrix α) :=
  if r < a.rows then do
    let start := r * a.cols
    return ⟨1, a.cols, ← slice a.data start (start + a.cols)⟩
  else refuse (.rowOutside r a.shape)

def column (a : FlatMatrix α) (c : ℕ) : Except (Fault α) (FlatMatrix α) :=
  if c < a.cols then do
    let data ← collect a.rows fun r => load a.data (r * a.cols + c)
    return ⟨a.rows, 1, data⟩
  else refuse (.columnOutside c a.shape)

def checkSameShape (a b : FlatMatrix α) (operation : DenseMatrix.Operation) : Except (Fault α) Unit :=
  if a.rows ≠ b.rows ∨ a.cols ≠ b.cols then refuse (.mismatch operation a.shape b.shape) else return

def checkSquare (a : FlatMatrix α) (operation : DenseMatrix.Operation) : Except (Fault α) Unit :=
  if a.rows ≠ a.cols then refuse (.mismatch operation a.shape ⟨a.cols, a.rows⟩) else return

section

variable [Scalar α]

def zeros (rows cols : ℕ) : Except (Fault α) (FlatMatrix α) := do
  let size ← area rows cols
  return ⟨rows, cols, Array.replicate size 0⟩

def identity (n : ℕ) : Except (Fault α) (FlatMatrix α) := do
  let size ← area n n
  let data ← loop 0 n (fun data i => store data (i * n + i) 1) (Array.replicate size 0)
  return ⟨n, n, data⟩

def diagonal (values : Array α) : Except (Fault α) (FlatMatrix α) := do
  let n := values.size
  let size ← area n n
  let data ← loop 0 n (fun data i => do store data (i * n + i) (← load values i)) (Array.replicate size 0)
  return ⟨n, n, data⟩

def combine (operation : DenseMatrix.Operation) (f : α → α → α) (a b : FlatMatrix α) :
    Except (Fault α) (FlatMatrix α) := do
  checkSameShape a b operation
  return ⟨a.rows, a.cols, a.data.zipWith f b.data⟩

def add (a b : FlatMatrix α) : Except (Fault α) (FlatMatrix α) := combine .add (· + ·) a b

def sub (a b : FlatMatrix α) : Except (Fault α) (FlatMatrix α) := combine .sub (· - ·) a b

def scale (a : FlatMatrix α) (s : α) : FlatMatrix α := ⟨a.rows, a.cols, a.data.map (· * s)⟩

def addProducts (a b : FlatMatrix α) (i : ℕ) (data : Array α) (k : ℕ) : Except (Fault α) (Array α) := do
  let x ← load a.data (i * a.cols + k)
  loop 0 b.cols (fun data j => do
    let sum ← load data (i * b.cols + j)
    let y ← load b.data (k * b.cols + j)
    store data (i * b.cols + j) (sum + x * y)) data

def multiply (a b : FlatMatrix α) : Except (Fault α) (FlatMatrix α) :=
  if a.cols ≠ b.rows then refuse (.mismatch .multiply a.shape b.shape)
  else do
    let size ← area a.rows b.cols
    let data ← loop 0 a.rows (fun data i => loop 0 a.cols (a.addProducts b i) data) (Array.replicate size 0)
    return ⟨a.rows, b.cols, data⟩

def fillColumn (m n j : ℕ) (item : ℕ → Except (Fault α) α) (data : Array α) : Except (Fault α) (Array α) :=
  loop 0 m (fun data i => do store data (i * n + j) (← item i)) data

def transpose (a : FlatMatrix α) : Except (Fault α) (FlatMatrix α) := do
  let data ← loop 0 a.rows (fun data r =>
    fillColumn a.cols a.rows r (fun c => load a.data (r * a.cols + c)) data) (Array.replicate a.data.size 0)
  return ⟨a.cols, a.rows, data⟩

end

def outcome (x : Except (DenseMatrix.Error α) (DenseMatrix α)) : Except (Fault α) (FlatMatrix α) :=
  (x.map DenseMatrix.flat).mapError .refused

lemma area_cases (rows cols : ℕ) :
    (∃ reason, DenseMatrix.area rows cols = (.error (.overflow reason) : Except (DenseMatrix.Error α) ℕ) ∧
      Shape.Large ⟨rows, cols⟩) ∨
      DenseMatrix.area rows cols = (.ok (rows * cols) : Except (DenseMatrix.Error α) ℕ) := by
  unfold DenseMatrix.area Word.area Word.mul Word.room
  split
  · rw [ok_bind]
    split
    · exact .inr rfl
    · rename_i hroom
      exact .inl ⟨_, rfl, not_lt.mp hroom⟩
  · rename_i hmul
    exact .inl ⟨_, rfl, Shape.large_of_bound_le (not_lt.mp hmul)⟩

lemma area_comm (rows cols : ℕ) :
    (DenseMatrix.area rows cols : Except (DenseMatrix.Error α) ℕ) = DenseMatrix.area cols rows := by
  unfold DenseMatrix.area Word.area Word.mul
  rw [Nat.mul_comm]

lemma new_eq (rows cols : ℕ) (data : Array α) :
    new rows cols data = outcome (DenseMatrix.ofData rows cols data) := by
  unfold new DenseMatrix.ofData Word.mul
  split
  · by_cases h : data.size = rows * cols
    · simp only [Except.mapError, ok_bind, h, ne_eq, not_true, if_false]
      rfl
    · simp only [Except.mapError, ok_bind, h, ne_eq, not_false_iff, if_true]
      rfl
  · rfl

lemma get_eq (a : DenseMatrix α) (r c : ℕ) : a.flat.get r c = (a.get r c).mapError .refused := by
  rw [DenseMatrix.get, DenseMatrix.position]
  by_cases h : r < a.rows ∧ c < a.cols
  · rw [dif_pos h]
    exact (if_pos h).trans (a.table.load_flat ⟨r, h.1⟩ ⟨c, h.2⟩)
  · rw [dif_neg h]
    exact if_neg h

lemma set_eq (a : DenseMatrix α) (r c : ℕ) (x : α) : a.flat.set r c x = outcome (a.set r c x) := by
  rw [DenseMatrix.set, DenseMatrix.position]
  by_cases h : r < a.rows ∧ c < a.cols
  · have hw := a.table.store_flat ⟨r, h.1⟩ ⟨c, h.2⟩ x
    rw [dif_pos h]
    exact (if_pos h).trans (congrArg (· >>= _) hw)
  · rw [dif_neg h]
    exact if_neg h

lemma extract_flat {m n c k : ℕ} (t : Table m n α) (i : Fin m) (h : c + k ≤ n) :
    t.flat.extract (i * n + c) (i * n + c + k) = Array.ofFn fun j : Fin k => t.get i ⟨c + j, by omega⟩ := by
  have hrow : i * n + n ≤ m * n := by
    rw [← Nat.succ_mul]
    exact Nat.mul_le_mul_right n i.isLt
  refine Array.ext (by simp; omega) fun j hj hj' => ?_
  rw [Array.getElem_extract, Array.getElem_ofFn]
  simp only [Nat.add_assoc]
  rfl

lemma slice_flat {m n c k : ℕ} (t : Table m n α) (i : Fin m) (h : c + k ≤ n) :
    (slice t.flat (i * n + c) (i * n + c + k) : Except (Fault α) (Array α)) =
      .ok (Array.ofFn fun j : Fin k => t.get i ⟨c + j, by omega⟩) := by
  have hrow : i * n + n ≤ m * n := by
    rw [← Nat.succ_mul]
    exact Nat.mul_le_mul_right n i.isLt
  rw [slice, if_pos ⟨Nat.le_add_right _ _, by rw [Table.size_flat]; omega⟩, extract_flat t i h]

lemma slice_row {m n : ℕ} (t : Table m n α) (i : Fin m) :
    (slice t.flat (i * n) (i * n + n) : Except (Fault α) (Array α)) = .ok (Array.ofFn fun j => t.get i j) := by
  simpa using slice_flat t i (c := 0) (k := n) (by omega)

lemma loop_rows {m n : ℕ} (t : Table m n α) (item : ℕ → Except (Fault α) (Array α))
    (h : ∀ i : Fin m, item i = .ok (Array.ofFn fun j => t.get i j)) :
    loop 0 m (fun data i => do return data ++ (← item i)) #[] = .ok t.flat := by
  have hrun : loop 0 m (fun data i => do return data ++ (← item i)) (t.flat.extract 0 (0 * n)) =
      .ok (t.flat.extract 0 (m * n)) :=
    loop_eq (fun i => t.flat.extract 0 (i * n)) (Nat.zero_le m) fun i _ => by
      have hrow := extract_flat t i (c := 0) (k := n) (by omega)
      simp only [Nat.add_zero, Nat.zero_add] at hrow
      rw [h i, ok_bind, ← hrow, Array.extract_append_extract, Nat.succ_mul]
      simp
      rfl
  rwa [Nat.zero_mul, Array.extract_zero, ← t.size_flat, Array.extract_size] at hrun

lemma row_eq (a : DenseMatrix α) (r : ℕ) : a.flat.row r = outcome (a.row r) := by
  rw [DenseMatrix.row]
  by_cases h : r < a.rows
  · rw [dif_pos h]
    have hdata : Array.ofFn (fun j => a.table.get ⟨r, h⟩ j) =
        (Table.ofFn fun (_ : Fin 1) j => a.table.get ⟨r, h⟩ j).flat := Table.eq_flat (by simp) fun i j => by simp
    refine (if_pos h).trans ((congrArg (· >>= _) (slice_row a.table ⟨r, h⟩)).trans ?_)
    rw [ok_bind, hdata]
    rfl
  · rw [dif_neg h]
    exact if_neg h

lemma column_eq (a : DenseMatrix α) (c : ℕ) : a.flat.column c = outcome (a.column c) := by
  obtain ⟨m, n, t⟩ := a
  rw [DenseMatrix.column]
  by_cases h : c < n
  · have hdata : Array.ofFn (fun i => t.get i ⟨c, h⟩) = (Table.ofFn fun i (_ : Fin 1) => t.get i ⟨c, h⟩).flat :=
      Table.eq_flat (by simp) fun i j => by simp
    have hrun : collect m (fun r => load t.flat (r * n + c)) =
        (.ok (Array.ofFn fun i => t.get i ⟨c, h⟩) : Except (Fault α) _) :=
      collect_eq fun i => t.load_flat i ⟨c, h⟩
    rw [dif_pos h]
    refine (if_pos h).trans (Eq.trans (congrArg (· >>= _) hrun) ?_)
    rw [ok_bind, hdata]
    rfl
  · rw [dif_neg h]
    exact if_neg h

lemma length_flatten {cols : ℕ} {rows : List (List α)} (h : ∀ row ∈ rows, row.length = cols) :
    rows.flatten.length = rows.length * cols := by
  rw [List.length_flatten, List.map_congr_left h, List.map_const', List.sum_replicate, smul_eq_mul]

lemma find?_length_eq_none {cols : ℕ} {rows : List (List α)} :
    rows.zipIdx.find? (fun r => r.1.length != cols) = none ↔ ∀ row ∈ rows, row.length = cols := by
  rw [List.find?_eq_none]
  constructor
  · intro h row hrow
    obtain ⟨i, hi, rfl⟩ := List.getElem_of_mem hrow
    have hmem : (rows[i], i) ∈ rows.zipIdx := List.mem_zipIdx_iff_getElem?.mpr (List.getElem?_eq_getElem hi)
    simpa using h _ hmem
  · intro h r hr
    simpa using h r.1 (List.fst_mem_of_mem_zipIdx hr)

lemma foldl_append_rows (rows : List (List α × ℕ)) (data : Array α) :
    rows.foldl (fun data row => data ++ row.1) data = data ++ (rows.map Prod.fst).flatten := by
  induction rows generalizing data with
  | nil => simp
  | cons row rows ih =>
    rw [List.foldl_cons, ih]
    exact Array.ext' (by simp)

lemma ofData_of_area {rows cols : ℕ} {data : Array α} (hsize : data.size = rows * cols)
    (h : DenseMatrix.area rows cols = (.ok (rows * cols) : Except (DenseMatrix.Error α) ℕ)) :
    DenseMatrix.ofData rows cols data = .ok ⟨rows, cols, ⟨⟨data, hsize⟩⟩⟩ := by
  unfold DenseMatrix.area Word.area at h
  unfold DenseMatrix.ofData
  cases hmul : Word.mul rows cols with
  | error reason =>
    rw [hmul] at h
    cases h
  | ok size => exact dif_pos hsize

lemma ofRows_eq (rows : List (List α)) : ofRows rows = outcome (DenseMatrix.ofRows rows) := by
  unfold ofRows DenseMatrix.ofRows area
  generalize hcols : (rows.head?.map List.length).getD 0 = cols
  dsimp only
  rcases area_cases rows.length cols with ⟨reason, h, -⟩ | h
  · rw [h]
    rfl
  · have hrun := foldlM_guard id (f := append cols) (fun _ _ => rfl) rows.zipIdx #[]
    simp only [id] at hrun
    simp only [h, Except.mapError, ok_bind, hrun, foldl_append_rows, List.zipIdx_map_fst]
    split
    · rename_i row hfind
      rw [hfind]
      rfl
    · rename_i hfind
      have hsize : rows.flatten.toArray.size = rows.length * cols := by
        rw [List.size_toArray, length_flatten (find?_length_eq_none.mp hfind)]
      rw [hfind]
      dsimp only
      rw [ofData_of_area hsize h]
      simp [outcome]
      rfl

lemma square_cases (a : DenseMatrix α) (operation : DenseMatrix.Operation) :
    (∃ (n : ℕ) (t : Table n n α), a = ⟨n, n, t⟩ ∧ a.flat.checkSquare operation = .ok ()) ∨
      a.rows ≠ a.cols ∧ a.square operation = .error (.mismatch operation a.shape ⟨a.cols, a.rows⟩) ∧
        a.flat.checkSquare operation = refuse (.mismatch operation a.shape ⟨a.cols, a.rows⟩) := by
  obtain ⟨m, n, t⟩ := a
  by_cases h : n = m
  · subst h
    exact .inl ⟨n, t, rfl, if_neg (not_not_intro rfl)⟩
  · exact .inr ⟨Ne.symm h, dif_neg h, if_pos (Ne.symm h)⟩

lemma square_self {n : ℕ} (t : Table n n α) (operation : DenseMatrix.Operation) :
    (⟨n, n, t⟩ : DenseMatrix α).square operation = .ok t := dif_pos rfl

lemma combine_eq (operation : DenseMatrix.Operation) (f : α → α → α) (a b : DenseMatrix α) :
    combine operation f a.flat b.flat = outcome (do
      let t ← a.sameShape b operation
      return ⟨a.rows, a.cols, a.table.zipWith f t⟩) := by
  obtain ⟨m, n, s⟩ := a
  obtain ⟨m', n', t⟩ := b
  rw [combine, checkSameShape, DenseMatrix.sameShape]
  by_cases h : m' = m ∧ n' = n
  · obtain ⟨rfl, rfl⟩ := h
    have hdata : s.flat.zipWith f t.flat = (s.zipWith f t).flat := by
      rw [Table.flat, Table.flat, Table.flat, Table.zipWith, Vector.toArray_zipWith]
    rw [dif_pos ⟨rfl, rfl⟩]
    refine (congrArg (· >>= _) (if_neg (by simp [DenseMatrix.flat]))).trans ?_
    exact congrArg (fun data => (.ok ⟨m', n', data⟩ : Except (Fault α) (FlatMatrix α))) hdata
  · have hdiffer : m ≠ m' ∨ n ≠ n' := by omega
    rw [dif_neg h]
    exact (congrArg (· >>= _) (if_pos hdiffer)).trans rfl

section

variable [Scalar α]

lemma flat_zero {m n : ℕ} : (Table.zero : Table m n α).flat = Array.replicate (m * n) 0 := rfl

lemma get_zero {m n : ℕ} (i : Fin m) (j : Fin n) : (Table.zero : Table m n α).get i j = 0 := by
  simp [Table.zero, Table.get]

lemma zeros_eq (rows cols : ℕ) :
    (zeros rows cols : Except (Fault α) (FlatMatrix α)) = outcome (DenseMatrix.zeros rows cols) := by
  rw [zeros, DenseMatrix.zeros, area]
  rcases area_cases rows cols with ⟨reason, h, -⟩ | h
  · rw [h]
    rfl
  · rw [h]
    rfl

lemma loop_diagonal {n : ℕ} (values : Vector α n) (item : ℕ → Except (Fault α) α)
    (hitem : ∀ i : Fin n, item i = .ok (values.get i)) :
    loop 0 n (fun data i => do store data (i * n + i) (← item i)) (Array.replicate (n * n) 0) =
      .ok (Table.diagonal values).flat := by
  refine Table.loop_patch (t := Table.zero) (fun k i j => i < k ∧ i = j) (Nat.zero_le n) (by simp) ?_ ?_
  · intro i j
    by_cases hij : i = j
    · exact .inl ⟨i.isLt, hij⟩
    · exact .inr (by simp [Table.diagonal, hij, get_zero])
  · intro k _
    rw [hitem, ok_bind]
    exact Table.store_patch_last (by simp [Table.diagonal]) fun i j => by
      simp only [Fin.ext_iff]
      omega

lemma loop_identity (n : ℕ) : loop 0 n (fun data i => store data (i * n + i) 1) (Array.replicate (n * n) 0) =
    (.ok (Table.identity : Table n n α).flat : Except (Fault α) (Array α)) := by
  have hdata : (Table.diagonal (Vector.replicate n 1) : Table n n α) = Table.identity := by
    ext i j
    simp [Table.diagonal, Table.identity]
  rw [← hdata]
  exact loop_diagonal (Vector.replicate n (1 : α)) (fun _ => .ok 1) fun i => by simp

lemma identity_eq (n : ℕ) :
    (identity n : Except (Fault α) (FlatMatrix α)) = outcome (DenseMatrix.identity n) := by
  rw [identity, DenseMatrix.identity, area]
  rcases area_cases n n with ⟨reason, h, -⟩ | h
  · rw [h]
    rfl
  · simp only [h, Except.mapError, ok_bind, loop_identity]
    rfl

lemma diagonal_eq (values : Array α) : diagonal values = outcome (DenseMatrix.diagonal values) := by
  have hloop := loop_diagonal (⟨values, rfl⟩ : Vector α values.size) (load values) fun i =>
    load_eq i.isLt
  rw [diagonal, DenseMatrix.diagonal, area]
  rcases area_cases values.size values.size with ⟨reason, h, -⟩ | h
  · rw [h]
    rfl
  · simp only [h, Except.mapError, ok_bind, hloop]
    rfl

lemma add_eq (a b : DenseMatrix α) : a.flat.add b.flat = outcome (a.add b) := combine_eq ..

lemma sub_eq (a b : DenseMatrix α) : a.flat.sub b.flat = outcome (a.sub b) := combine_eq ..

lemma scale_eq (a : DenseMatrix α) (s : α) : a.flat.scale s = (a.scale s).flat := by
  simp [scale, DenseMatrix.scale, DenseMatrix.flat, Table.flat, Table.map]

lemma loop_addProducts {l m n : ℕ} (a : Table m l α) (b : Table l n α) :
    loop 0 m (fun data i => loop 0 l (addProducts ⟨m, l, a.flat⟩ ⟨l, n, b.flat⟩ i) data)
      (Array.replicate (m * n) 0) = .ok (a.mul b).flat := by
  -- each entry takes its products one after the other, between which the others take theirs
  let put (i : Fin m) (k : Fin l) (t : Table m n α) (j : Fin n) : Table m n α :=
    t.set i j (t.get i j + a.get i k * b.get k j)
  have hentry (i : Fin m) (k : Fin l) (t : Table m n α) :
      addProducts ⟨m, l, a.flat⟩ ⟨l, n, b.flat⟩ i t.flat k = .ok (Fin.foldl n (put i k) t).flat := by
    rw [addProducts, a.load_flat, ok_bind]
    refine loop_fold Table.flat (put i k) (Nat.zero_le n) le_rfl (fun t j _ _ => ?_) (by omega) t
    rw [t.load_flat, b.load_flat, ok_bind, ok_bind, t.store_flat]
  have hrow (t : Table m n α) (i : Fin m) :
      loop 0 l (addProducts ⟨m, l, a.flat⟩ ⟨l, n, b.flat⟩ i) t.flat =
        .ok (Fin.foldl l (fun t k => Fin.foldl n (put i k) t) t).flat :=
    loop_fold Table.flat _ (Nat.zero_le l) le_rfl (fun t k _ _ => hentry i k t) (by omega) t
  refine (loop_fold Table.flat _ (Nat.zero_le m) le_rfl (fun t i _ _ => hrow t i) (by omega)
    Table.zero).trans ?_
  congr 2
  ext r c
  have hput (i : Fin m) (k : Fin l) (t : Table m n α) :
      (Fin.foldl n (put i k) t).get r c = if i = r then t.get r c + a.get r k * b.get k c else t.get r c := by
    rw [Table.get_foldl (fun x j => if j = c then if i = r then x + a.get r k * b.get k c else x else x),
      foldl_hit (fun x _ => if i = r then x + a.get r k * b.get k c else x)]
    intro t j
    rw [Table.get_set]
    by_cases hi : i = r
    · by_cases hj : j = c
      · simp [hi, hj]
      · simp [hj, Ne.symm hj]
    · simp [hi, Ne.symm hi]
  have hputs (t : Table m n α) (i : Fin m) :
      (Fin.foldl l (fun t k => Fin.foldl n (put i k) t) t).get r c =
        if i = r then Fin.foldl l (fun x k => x + a.get r k * b.get k c) (t.get r c) else t.get r c := by
    rw [Table.get_foldl (fun x k => if i = r then x + a.get r k * b.get k c else x) fun t k => hput i k t]
    split
    · rfl
    · rw [Fin.foldl_eq_foldl_finRange]
      exact List.foldl_fixed _
  rw [Table.get_foldl (fun x i => if i = r then Fin.foldl l (fun x k => x + a.get r k * b.get k c) x else x) hputs,
    foldl_hit (fun x _ => Fin.foldl l (fun x k => x + a.get r k * b.get k c) x), get_zero, Table.mul,
    Table.get_ofFn]

lemma multiply_flat {l m n : ℕ} (s : Table m l α) (t : Table l n α) :
    multiply ⟨m, l, s.flat⟩ ⟨l, n, t.flat⟩ = do
      let _ ← area m n
      return ⟨m, n, (s.mul t).flat⟩ := by
  refine (if_neg (not_not_intro rfl)).trans ?_
  unfold area
  dsimp only
  rcases area_cases m n with ⟨reason, h, -⟩ | h
  · rw [h]
    rfl
  · simp only [h, Except.mapError, ok_bind]
    exact congrArg (· >>= _) (loop_addProducts s t)

lemma multiply_eq (a b : DenseMatrix α) : a.flat.multiply b.flat = outcome (a.multiply b) := by
  obtain ⟨m, l, s⟩ := a
  obtain ⟨l', n, t⟩ := b
  rw [DenseMatrix.multiply]
  by_cases h : l' = l
  · subst h
    rw [dif_pos rfl]
    refine (multiply_flat s t).trans ?_
    dsimp only
    rw [area]
    rcases area_cases m n with ⟨reason, h, -⟩ | h
    · rw [h]
      rfl
    · rw [h]
      rfl
  · rw [dif_neg h]
    exact if_pos (Ne.symm h)

lemma fillColumn_flat {m n : ℕ} (t : Table m n α) (j : Fin n) (item : ℕ → Except (Fault α) α)
    (h : ∀ i : Fin m, item i = .ok (t.get i j)) :
    fillColumn m n j item (Table.patch (fun _ j' => j'.val < j.val) Table.zero t).flat =
      .ok (Table.patch (fun _ j' => j'.val < j.val + 1) Table.zero t).flat := by
  have hfirst : Table.patch (fun _ j' => j'.val < j.val) Table.zero t =
      Table.patch (fun i j' => j'.val < j.val ∨ i.val < 0 ∧ j' = j) Table.zero t :=
    Table.patch_congr fun i j' => .inl (by omega)
  have hlast : Table.patch (fun i j' => j'.val < j.val ∨ i.val < m ∧ j' = j) Table.zero t =
      Table.patch (fun _ j' => j'.val < j.val + 1) Table.zero t :=
    Table.patch_congr fun i j' => .inl (by simp only [Fin.ext_iff]; omega)
  rw [hfirst, ← hlast]
  refine Table.loop_patches (fun k i j' => j'.val < j.val ∨ i.val < k ∧ j' = j) (Nat.zero_le m) fun i _ => ?_
  rw [h i, ok_bind]
  exact Table.store_patch_last rfl fun i' j' => by
    simp only [Fin.ext_iff]
    omega

lemma loop_columns {m n : ℕ} (t : Table m n α) {f : Array α → ℕ → Except (Fault α) (Array α)}
    (h : ∀ j : Fin n, f (Table.patch (fun _ j' => j'.val < j.val) Table.zero t).flat j =
      .ok (Table.patch (fun _ j' => j'.val < j.val + 1) Table.zero t).flat) :
    loop 0 n f (Array.replicate (m * n) 0) = .ok t.flat :=
  Table.loop_patch (t := Table.zero) (fun k _ j => j.val < k) (Nat.zero_le n) (by simp)
    (fun _ j => .inl j.isLt) fun j _ => h j

lemma transpose_flat {m n : ℕ} (t : Table m n α) :
    transpose ⟨m, n, t.flat⟩ = .ok ⟨n, m, t.transpose.flat⟩ := by
  rw [transpose]
  dsimp only
  rw [Table.size_flat, Nat.mul_comm m n]
  refine congrArg (· >>= _) (loop_columns t.transpose fun r => ?_)
  exact fillColumn_flat t.transpose r _ fun c => by rw [t.load_flat, Table.get_transpose]

end

end FlatMatrix

end Navigation
