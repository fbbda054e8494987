import Mathlib
import Navigation.Matrix.Cholesky
import Navigation.Proofs.Matrix.FlatMatrix
import Navigation.Proofs.Matrix.Pivots

namespace Navigation

open Buffer

section

variable {α : Type} [Scalar α]

namespace FlatMatrix

def swapRows (w : ℕ) (xs : Array α) (r s : ℕ) : Except (Fault α) (Array α) :=
  loop 0 w (fun xs c => swap xs (r * w + c) (s * w + c)) xs

def subtractRow (w lo : ℕ) (factor : α) (r k : ℕ) (xs : Array α) : Except (Fault α) (Array α) :=
  loop lo w (fun xs c => do
    let x ← load xs (r * w + c)
    let y ← load xs (k * w + c)
    store xs (r * w + c) (x - factor * y)) xs

def subtractProducts (lo hi : ℕ) (x y : ℕ → Except (Fault α) α) (first : α) : Except (Fault α) α :=
  loop lo hi (fun sum j => do return sum - (← x j) * (← y j)) first

end FlatMatrix

structure FlatFactors (α : Type) where
  size : ℕ
  lu : Array α
  perm : Array ℕ
  sign : α

namespace FlatFactors

open FlatMatrix

def scan (n : ℕ) (lu : Array α) (k : ℕ) : Except (Fault α) (ℕ × α) := do
  let first ← load lu (k * n + k)
  loop (k + 1) n (fun best r => do
    let magnitude := Scalar.abs (← load lu (r * n + k))
    return if Scalar.lt best.2 magnitude then (r, magnitude) else best) (k, Scalar.abs first)

def exchange (f : FlatFactors α) (k p : ℕ) : Except (Fault α) (FlatFactors α) :=
  if p ≠ k then do
    let lu ← swapRows f.size f.lu k p
    let perm ← swap f.perm k p
    return ⟨f.size, lu, perm, -f.sign⟩
  else return f

def clearBelow (n : ℕ) (lu : Array α) (k : ℕ) : Except (Fault α) (Array α) := do
  let pivot ← load lu (k * n + k)
  loop (k + 1) n (fun lu r => do
    let x ← load lu (r * n + k)
    let factor := x / pivot
    let lu ← store lu (r * n + k) factor
    if factor == 0 then return lu else subtractRow n (k + 1) factor r k lu) lu

def stage (f : FlatFactors α) (k : ℕ) : Except (Fault α) (FlatFactors α) := do
  let (p, magnitude) ← scan f.size f.lu k
  let f ← f.exchange k p
  if Scalar.lt magnitude Scalar.pivotTolerance then return f
  else
    let lu ← clearBelow f.size f.lu k
    return { f with lu }

def ofMatrix (a : FlatMatrix α) : Except (Fault α) (FlatFactors α) :=
  loop 0 a.rows stage ⟨a.rows, a.data, Array.range a.rows, 1⟩

def forward (f : FlatFactors α) (b : FlatMatrix α) (col : ℕ) : Except (Fault α) (Array α) :=
  loop 0 f.size (fun y i => do
    let r ← load f.perm i
    let first ← load b.data (r * b.cols + col)
    let sum ← subtractProducts 0 i (fun j => load f.lu (i * f.size + j)) (load y) first
    store y i sum) (Array.replicate f.size 0)

def backward (f : FlatFactors α) (m col : ℕ) (y x : Array α) : Except (Fault α) (Array α) :=
  loopDown f.size (fun x i => do
    let pivot ← load f.lu (i * f.size + i)
    if Scalar.negligible pivot then refuse (.singular i pivot)
    else
      let first ← load y i
      let sum ← subtractProducts (i + 1) f.size (fun j => load f.lu (i * f.size + j))
        (fun j => load x (j * m + col)) first
      store x (i * m + col) (sum / pivot)) x

def solve (f : FlatFactors α) (b : FlatMatrix α) : Except (Fault α) (FlatMatrix α) := do
  let m := b.cols
  let x ← loop 0 m (fun x col => do
    let y ← f.forward b col
    f.backward m col y x) (Array.replicate (f.size * m) 0)
  return ⟨f.size, m, x⟩

end FlatFactors

namespace FlatMatrix

def solve (a b : FlatMatrix α) : Except (Fault α) (FlatMatrix α) := do
  a.checkSquare .solve
  if b.rows ≠ a.rows then refuse (.mismatch .solve a.shape b.shape)
  else (← FlatFactors.ofMatrix a).solve b

def choleskyEntry (n : ℕ) (data : Array α) (i : ℕ) (l : Array α) (j : ℕ) : Except (Fault α) (Array α) := do
  let first ← load data (i * n + j)
  let sum ← subtractProducts 0 j (fun k => load l (i * n + k)) (fun k => load l (j * n + k)) first
  if i = j then
    if Scalar.le sum 0 then refuse (.notPositiveDefinite i sum) else store l (i * n + i) (Scalar.sqrt sum)
  else
    let d ← load l (j * n + j)
    store l (i * n + j) (sum / d)

def cholesky (a : FlatMatrix α) : Except (Fault α) (FlatMatrix α) := do
  a.checkSquare .cholesky
  let n := a.rows
  let l ← loop 0 n (fun l i => loop 0 (i + 1) (choleskyEntry n a.data i) l) (Array.replicate (n * n) 0)
  return ⟨n, n, l⟩

end FlatMatrix

namespace Table

variable {m n : ℕ} {t : Table m n α} {r s k : Fin m} {lo : ℕ} {factor : α}

def subtractRow (t : Table m n α) (lo : ℕ) (factor : α) (r k : Fin m) : Table m n α :=
  ofFn fun i j => if i = r ∧ lo ≤ j then t.get r j - factor * t.get k j else t.get i j

@[simp] lemma get_subtractRow (i : Fin m) (j : Fin n) : (t.subtractRow lo factor r k).get i j =
    if i = r ∧ lo ≤ j then t.get r j - factor * t.get k j else t.get i j := get_ofFn _ i j

omit [Scalar α] in
lemma swapRows_flat (h : s ≠ r) :
    FlatMatrix.swapRows n t.flat r s = (.ok (t.swapRows r s).flat : Except (Fault α) (Array α)) := by
  refine loop_patch (fun c i j => (i = r ∨ i = s) ∧ j < c) (Nat.zero_le n) (by simp) ?_ fun j _ => ?_
  · intro i j
    by_cases hi : i = r ∨ i = s
    · exact .inl ⟨hi, j.isLt⟩
    · obtain ⟨hr, hs⟩ := not_or.mp hi
      exact .inr (by simp [hr, hs])
  · rw [swap, load_patch (by simp), load_patch (by simp), ok_bind, ok_bind, store_patch (by simp), ok_bind]
    exact store_patch_last (by simp [h]) fun i' j' => by
      simp only [Fin.ext_iff]
      omega

lemma subtractRow_flat (hlo : lo ≤ n) (h : k ≠ r) :
    FlatMatrix.subtractRow n lo factor r k t.flat = .ok (t.subtractRow lo factor r k).flat := by
  refine loop_patch (fun c i j => i = r ∧ lo ≤ j ∧ j < c) hlo (by omega) ?_ fun j hj => ?_
  · intro i j
    by_cases hi : i = r ∧ lo ≤ j
    · exact .inl ⟨hi.1, hi.2, j.isLt⟩
    · exact .inr (by simp [hi])
  · rw [load_patch (by simp), load_patch (by simp [h]), ok_bind, ok_bind]
    exact store_patch_last (by simp [hj]) fun i' j' => by
      simp only [Fin.ext_iff]
      omega

end Table

namespace FlatFactors

open FlatMatrix

variable {m n : ℕ}

lemma scan_flat (t : Table n n α) (k : Fin n) :
    scan n t.flat k = .ok ((t.pivotRow k k).val, Scalar.abs (t.get (t.pivotRow k k) k)) := by
  rw [scan, t.load_flat, ok_bind, Table.pivotRow]
  refine loop_fold (fun best : Fin n => (best.val, Scalar.abs (t.get best k))) _ k.isLt le_rfl ?_ ?_ k
  · intro best r hr _
    have hkr : k < r := hr
    rw [t.load_flat, ok_bind]
    simp only [hkr, decide_true, Bool.true_and]
    split <;> rfl
  · intro best r hr
    have hkr : ¬k < r := by omega
    simp [hkr]

lemma get_eliminate (t : Table n n α) (k i j : Fin n) : (Factors.eliminate t k).get i j =
    if k < i then
      if j = k then t.get i k / t.get k k
      else if k < j && !(t.get i k / t.get k k == 0) then t.get i j - t.get i k / t.get k k * t.get k j
      else t.get i j
    else t.get i j := Table.get_ofFn _ i j

lemma clearBelow_flat (t : Table n n α) (k : Fin n) :
    clearBelow n t.flat k = .ok (Factors.eliminate t k).flat := by
  rw [clearBelow, t.load_flat, ok_bind]
  refine Table.loop_patch (fun r i _ => k < i ∧ i < r) k.isLt ?_ ?_ fun r hr => ?_
  · intro i j hi
    omega
  · intro i j
    by_cases hi : k < i
    · exact .inl ⟨hi, i.isLt⟩
    · exact .inr (by rw [get_eliminate, if_neg hi])
  · have hkr : k < r := hr
    have hrow (j : Fin n) : (Factors.eliminate t k).get k j = t.get k j := by simp [get_eliminate]
    rw [Table.load_patch (by simp), ok_bind]
    dsimp only
    rw [Table.store_flat, ok_bind]
    split
    · rename_i hzero
      refine congrArg (fun t => Except.ok (Table.flat t)) ?_
      ext i j
      rw [Table.get_set, Table.get_patch, Table.get_patch]
      by_cases hi : i = r
      · subst hi
        rw [get_eliminate, hzero]
        by_cases hj : j = k <;> simp [hj, hkr]
      · have hlt : i.val < r.val + 1 ↔ i.val < r.val := by omega
        simp [hi, hlt]
    · rename_i hzero
      rw [Table.subtractRow_flat k.isLt hkr.ne]
      refine congrArg (fun t => Except.ok (Table.flat t)) ?_
      ext i j
      rw [Table.get_subtractRow, Table.get_set, Table.get_set, Table.get_set, Table.get_patch, Table.get_patch,
        Table.get_patch, Table.get_patch]
      by_cases hi : i = r
      · subst hi
        rw [get_eliminate]
        rcases lt_trichotomy j k with hj | rfl | hj
        · simp [hj.ne, hj.not_gt, hkr]
        · simp [hkr]
        · simp [hj.ne', hj, hkr, hzero, hkr.ne, Nat.succ_le_of_lt hj]
      · have hlt : i.val < r.val + 1 ↔ i.val < r.val := by omega
        simp [hi, hlt]

end FlatFactors

namespace FlatMatrix

lemma subtractProducts_eq {n lo hi : ℕ} {x y : ℕ → Except (Fault α) α} (xs ys : Fin n → α) (p : Fin n → Prop)
    [DecidablePred p] (hle : lo ≤ hi) (hhi : hi ≤ n) (hp : ∀ j, p j ↔ lo ≤ j.val ∧ j.val < hi)
    (hx : ∀ j, p j → x j = .ok (xs j)) (hy : ∀ j, p j → y j = .ok (ys j)) (first : α) :
    subtractProducts lo hi x y first =
      .ok (Fin.foldl n (fun sum j => if p j then sum - xs j * ys j else sum) first) := by
  refine loop_fold id _ hle hhi (fun sum j hlo hhi => ?_) (fun sum j hj => ?_) first
  · have hj : p j := (hp j).mpr ⟨hlo, hhi⟩
    rw [hx j hj, hy j hj, if_pos hj]
    rfl
  · rw [if_neg]
    rw [hp]
    omega

end FlatMatrix

namespace Factors

variable {n : ℕ} (f : Factors n α)

def flat : FlatFactors α := ⟨n, f.lu.flat, f.perm.toArray.map Fin.val, f.sign⟩

omit [Scalar α] in
lemma load_perm (i : Fin n) : (load f.flat.perm i : Except (Fault α) ℕ) = .ok (f.perm.get i).val := by
  refine (load_eq (by simp [flat])).trans ?_
  simp [flat]
  rfl

omit [Scalar α] in
lemma swap_perm (i j : Fin n) : (swap f.flat.perm i j : Except (Fault α) (Array ℕ)) =
    .ok ((f.perm.swap i j i.isLt j.isLt).toArray.map Fin.val) := by
  rw [swap, f.load_perm, f.load_perm, ok_bind, ok_bind, store_eq (by simp [flat]), ok_bind,
    store_eq (by simp [flat])]
  congr 1
  refine Array.ext (by simp [flat]) fun c hc hc' => ?_
  simp only [flat, Array.getElem_set, Array.getElem_map, Vector.toArray_swap, Array.getElem_swap,
    Vector.getElem_toArray, apply_ite Fin.val]
  by_cases hj : j.val = c
  · by_cases hi : i.val = c
    · rw [if_pos hj, if_pos hi.symm, Fin.ext (hi.trans hj.symm)]
      rfl
    · rw [if_pos hj, if_neg (Ne.symm hi), if_pos hj.symm]
      rfl
  · rw [if_neg hj, if_neg (Ne.symm hj)]
    exact ite_congr (propext eq_comm) (fun _ => rfl) fun _ => rfl

end Factors

namespace FlatFactors

open FlatMatrix

variable {n m : ℕ}

lemma exchange_flat (f : Factors n α) (k : Fin n) :
    f.flat.exchange k (f.lu.pivotRow k k) = .ok (f.pivot k).flat := by
  rw [exchange, Factors.pivot]
  by_cases h : f.lu.pivotRow k k = k
  · have hne : ¬((f.lu.pivotRow k k).val ≠ k.val) := by simp [h]
    rw [if_neg hne]
    simp [h]
    rfl
  · have hne : (f.lu.pivotRow k k).val ≠ k.val := fun he => h (Fin.ext he)
    have hrows := Table.swapRows_flat (t := f.lu) h
    rw [if_pos hne, f.swap_perm]
    simp only [if_neg h]
    exact congrArg (· >>= _) hrows

lemma stage_flat (f : Factors n α) (k : Fin n) : f.flat.stage k = .ok (f.stage k).flat := by
  have hpivot : (f.pivot k).lu.get k k = f.lu.get (f.lu.pivotRow k k) k := Factors.get_pivot_self
  rw [stage, Factors.stage]
  refine (congrArg (· >>= _) (scan_flat f.lu k)).trans ?_
  rw [ok_bind]
  dsimp only
  rw [exchange_flat, ok_bind, Scalar.negligible, hpivot]
  split
  · rfl
  · exact congrArg (· >>= _) (clearBelow_flat (f.pivot k).lu k)

lemma ofMatrix_flat (t : Table n n α) : ofMatrix ⟨n, n, t.flat⟩ = .ok (Factors.ofTable t).flat := by
  have hstart : (⟨n, t.flat, Array.range n, 1⟩ : FlatFactors α) = (⟨t, Vector.ofFn id, 1⟩ : Factors n α).flat := by
    have hperm : (Vector.ofFn (id : Fin n → Fin n)).toArray.map Fin.val = Array.range n :=
      Array.ext (by simp) fun i hi hi' => by simp
    rw [Factors.flat, hperm]
  rw [ofMatrix, hstart]
  exact loop_fold Factors.flat Factors.stage (Nat.zero_le n) le_rfl (fun f k _ _ => stage_flat f k) (by omega) _

lemma forward_flat (f : Factors n α) (b : Table n m α) (col : Fin m) :
    f.flat.forward ⟨n, m, b.flat⟩ col = .ok (f.forward (Vector.ofFn fun i => b.get i col)).toArray := by
  refine loop_fold Vector.toArray _ (Nat.zero_le n) le_rfl (fun y i _ _ => ?_) (by omega) (Vector.replicate n 0)
  have hfirst : (load b.flat ((f.perm.get i).val * m + col) : Except (Fault α) α) = .ok (b.get (f.perm.get i) col) :=
    b.load_flat _ _
  rw [f.load_perm, ok_bind]
  dsimp only
  rw [hfirst, ok_bind, subtractProducts_eq (fun j => f.lu.get i j) (fun j => y.get j) (fun j : Fin n => j < i)
    (Nat.zero_le _) i.isLt.le (by simp) (fun j _ => f.lu.load_flat i j) (fun j _ => load_eq (by simp)), ok_bind,
    store_eq (by simp)]
  simp

end FlatFactors

namespace Table

variable {m n : ℕ}

def setCol (s : Table m n α) (c : Fin n) (v : Vector α m) : Table m n α :=
  ofFn fun i j => if j = c then v.get i else s.get i j

omit [Scalar α] in
@[simp] lemma get_setCol (s : Table m n α) (c : Fin n) (v : Vector α m) (i : Fin m) (j : Fin n) :
    (s.setCol c v).get i j = if j = c then v.get i else s.get i j := get_ofFn _ i j

omit [Scalar α] in
lemma set_setCol (s : Table m n α) (c : Fin n) (v : Vector α m) (i : Fin m) (x : α) :
    (s.setCol c v).set i c x = s.setCol c (v.set i x i.isLt) := by
  ext i' j
  rw [get_set, get_setCol, get_setCol]
  by_cases hj : j = c
  · by_cases hi : i' = i
    · simp [hi, hj, Vector.get_eq_getElem]
    · have hne : i.val ≠ i'.val := fun he => hi (Fin.ext he.symm)
      simp [hi, hj, Vector.get_eq_getElem, Vector.getElem_set_ne, hne]
  · simp [hj]

end Table

namespace FlatFactors

open FlatMatrix

variable {n m : ℕ}

lemma backward_flat (f : Factors n α) (s : Table n m α) (col : Fin m) (y : Vector α n) :
    f.flat.backward m col y.toArray (s.setCol col (Vector.replicate n 0)).flat =
      match f.singularRow? with
      | some i => refuse (.singular i (f.lu.get i i))
      | none => .ok (s.setCol col (f.backward y)).flat := by
  refine loopDown_guard (n := n) (fun v => (s.setCol col v).flat) (fun x i => ?_) (Vector.replicate n 0)
  have hpivot : (load f.flat.lu (i * f.flat.size + i) : Except (Fault α) α) = .ok (f.lu.get i i) :=
    f.lu.load_flat i i
  have hy : (load y.toArray i : Except (Fault α) α) = .ok (y.get i) := load_eq (by simp)
  have hx (j : Fin n) : (load (s.setCol col x).flat (j * m + col) : Except (Fault α) α) = .ok (x.get j) := by
    rw [Table.load_flat, Table.get_setCol, if_pos rfl]
  have hsum : subtractProducts (i + 1) n (fun j => load f.lu.flat (i * n + j))
      (fun j => load (s.setCol col x).flat (j * m + col)) (y.get i) =
      .ok (Fin.foldl n (fun sum j => if i < j then sum - f.lu.get i j * x.get j else sum) (y.get i)) :=
    subtractProducts_eq (fun j => f.lu.get i j) (fun j => x.get j) (fun j => i < j) i.isLt le_rfl (by simp)
      (fun j _ => f.lu.load_flat i j) (fun j _ => hx j) _
  rw [hpivot, ok_bind, hy, ok_bind]
  split
  · rfl
  · refine (congrArg (· >>= _) hsum).trans ?_
    rw [ok_bind, Table.store_flat, Table.set_setCol]

lemma solve_flat (f : Factors n α) (b : Table n m α) : f.flat.solve ⟨n, m, b.flat⟩ =
    ((f.solve b).map fun x => ⟨n, m, x.flat⟩).mapError .refused := by
  have hcol (s : Table n m α) (col : Fin m) := backward_flat f s col (f.forward (Vector.ofFn fun i => b.get i col))
  have hstart (s : Table n m α) (col : Fin m) (h : ∀ i, s.get i col = 0) :
      s.setCol col (Vector.replicate n 0) = s := by
    ext i j
    by_cases hj : j = col <;> simp [hj, h, Vector.get_eq_getElem]
  have hrun : loop 0 m (fun x col => do
      let y ← f.flat.forward ⟨n, m, b.flat⟩ col
      f.flat.backward m col y x) (Array.replicate (n * m) 0) =
      ((f.solve b).map fun x => x.flat).mapError .refused := by
    cases hsing : f.singularRow? with
    | some i =>
      simp only [hsing] at hcol
      rw [Factors.solve, hsing]
      cases m with
      | zero => rfl
      | succ m =>
        refine loop_error (Nat.succ_pos m) ?_
        rw [← flat_zero]
        refine (congrArg (· >>= _) (forward_flat f b 0)).trans ?_
        rw [ok_bind, ← hstart Table.zero 0 fun i => get_zero i 0]
        exact hcol _ 0
    | none =>
      simp only [hsing] at hcol
      rw [Factors.solve, hsing]
      refine Table.loop_patch (t := Table.zero) (fun k _ j => j < k) (Nat.zero_le m) (by simp)
        (fun _ j => .inl j.isLt) fun col _ => ?_
      rw [forward_flat f b col, ok_bind, ← hstart (Table.patch _ _ _) col fun i => by simp [get_zero], hcol]
      refine congrArg (fun t => Except.ok (Table.flat t)) ?_
      ext i j
      rw [Table.get_setCol, Table.get_patch, Table.get_patch]
      rcases lt_trichotomy j col with hj | rfl | hj
      · simp [hj.ne, hj, Nat.lt_succ_of_lt hj]
      · simp
      · have hnot : ¬j.val < col.val + 1 := by omega
        simp [hj.ne', hj.not_gt, hnot]
  rw [solve]
  refine (congrArg (· >>= _) hrun).trans ?_
  cases f.solve b <;> rfl

end FlatFactors

namespace FlatMatrix

lemma solve_eq (a b : DenseMatrix α) : a.flat.solve b.flat = outcome (a.solve b) := by
  rw [solve, DenseMatrix.solve]
  rcases square_cases a .solve with ⟨n, t, rfl, hcheck⟩ | ⟨-, hsquare, hcheck⟩
  · obtain ⟨l, m, u⟩ := b
    rw [hcheck, square_self]
    by_cases hl : l = n
    · subst hl
      simp only [DenseMatrix.flat, ok_bind, FlatFactors.ofMatrix_flat, FlatFactors.solve_flat, ne_eq,
        not_true, if_false]
      cases (Factors.ofTable t).solve u <;> rfl
    · simp only [ok_bind, dif_neg hl]
      exact if_pos hl
  · rw [hcheck, hsquare]
    rfl

lemma remainder_flat {n : ℕ} (t l : Table n n α) (i j : Fin n) :
    subtractProducts 0 j (fun k => load l.flat (i * n + k)) (fun k => load l.flat (j * n + k)) (t.get i j) =
      .ok (t.remainder l i j) :=
  subtractProducts_eq (fun k => l.get i k) (fun k => l.get j k) (fun k => k < j) (Nat.zero_le _) j.isLt.le
    (by simp) (fun k _ => l.load_flat i k) (fun k _ => l.load_flat j k) _

lemma choleskyEntry_flat {n : ℕ} (t l : Table n n α) {i j : Fin n} (h : j < i) :
    choleskyEntry n t.flat i l.flat j = .ok (l.set i j (t.remainder l i j / l.get j j)).flat := by
  rw [choleskyEntry, t.load_flat, ok_bind, remainder_flat, ok_bind, if_neg (by omega), l.load_flat, ok_bind,
    l.store_flat]

lemma choleskyDiagonal_flat {n : ℕ} (t l : Table n n α) (i : Fin n) :
    choleskyEntry n t.flat i l.flat i =
      ((if Scalar.le (t.remainder l i i) 0 then .error (.notPositiveDefinite i (t.remainder l i i))
        else .ok (l.set i i (Scalar.sqrt (t.remainder l i i))) :
          Except (DenseMatrix.Error α) (Table n n α)).map Table.flat).mapError .refused := by
  rw [choleskyEntry, t.load_flat, ok_bind, remainder_flat, ok_bind, if_pos rfl]
  split
  · rfl
  · rw [l.store_flat]
    rfl

lemma choleskyStep_flat {n : ℕ} (t l : Table n n α) (i : Fin n) :
    loop 0 (i + 1) (choleskyEntry n t.flat i) l.flat = ((t.choleskyStep l i).map Table.flat).mapError .refused := by
  have hrow : loop 0 i (choleskyEntry n t.flat i) l.flat = .ok (t.choleskyRow l i).flat :=
    loop_fold Table.flat _ (Nat.zero_le _) i.isLt.le (fun l j _ hj => by
      rw [choleskyEntry_flat t l hj, if_pos (Fin.lt_def.mpr hj)]) (fun l j hj => if_neg (by omega)) l
  rw [loop_add_one (Nat.zero_le _), hrow, ok_bind, choleskyDiagonal_flat]
  rfl

lemma cholesky_eq (a : DenseMatrix α) : a.flat.cholesky = outcome a.cholesky := by
  rw [cholesky, DenseMatrix.cholesky]
  rcases square_cases a .cholesky with ⟨n, t, rfl, hcheck⟩ | ⟨-, hsquare, hcheck⟩
  · have hrun : loop 0 n (fun l i => loop 0 (i + 1) (choleskyEntry n t.flat i) l) (Table.zero : Table n n α).flat =
        (t.cholesky.map Table.flat).mapError .refused :=
      loop_foldlM Table.flat t.choleskyStep (fun l i => choleskyStep_flat t l i) Table.zero
    rw [hcheck, square_self]
    simp only [DenseMatrix.flat, ok_bind, ← flat_zero, hrun]
    cases t.cholesky <;> rfl
  · rw [hcheck, hsquare]
    rfl

end FlatMatrix

end

end Navigation

