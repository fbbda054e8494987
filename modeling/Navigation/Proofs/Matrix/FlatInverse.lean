import Mathlib
import Navigation.Proofs.Matrix.FlatElimination

/-! The inverse found in place, beside the identity in a buffer whose rows are twice as long. -/

namespace Navigation

open Buffer

section

variable {α : Type} [Scalar α]

namespace FlatMatrix

def augment (n w : ℕ) (data : Array α) : Except (Fault α) (Array α) :=
  loop 0 n (fun aug r => do
    let row ← slice data (r * n) ((r + 1) * n)
    let aug ← copy aug (r * w) (r * w + n) row
    store aug (r * w + n + r) 1) (Array.replicate (n * w) 0)

def scan (n w : ℕ) (aug : Array α) (col : ℕ) : Except (Fault α) ℕ :=
  loop (col + 1) n (fun best r => do
    let x ← load aug (r * w + col)
    let y ← load aug (best * w + col)
    return if Scalar.lt (Scalar.abs y) (Scalar.abs x) then r else best) col

def divideRow (w : ℕ) (pivot : α) (r : ℕ) (aug : Array α) : Except (Fault α) (Array α) :=
  loop 0 w (fun aug c => do
    let x ← load aug (r * w + c)
    store aug (r * w + c) (x / pivot)) aug

def reduce (n w : ℕ) (pivot : α) (col : ℕ) (aug : Array α) : Except (Fault α) (Array α) := do
  let aug ← divideRow w pivot col aug
  loop 0 n (fun aug r => do
    if r = col then return aug
    else
      let factor ← load aug (r * w + col)
      if factor == 0 then return aug else subtractRow w 0 factor r col aug) aug

def clear (n w : ℕ) (aug : Array α) (col : ℕ) : Except (Fault α) (Array α) := do
  let p ← scan n w aug col
  let pivot ← load aug (p * w + col)
  if Scalar.negligible pivot then refuse (.singular col pivot)
  else
    let aug ← if p ≠ col then swapRows w aug col p else .ok aug
    reduce n w pivot col aug

def inverse (a : FlatMatrix α) : Except (Fault α) (FlatMatrix α) := do
  a.checkSquare .inverse
  let n := a.rows
  let w := 2 * n
  let aug ← augment n w a.data
  let aug ← loop 0 n (clear n w) aug
  let data ← loop 0 n (fun data r => do return data ++ (← slice aug (r * w + n) ((r + 1) * w))) #[]
  return ⟨n, n, data⟩

end FlatMatrix

namespace Table

variable {m n : ℕ}

def copyRow {l : ℕ} (t : Table m n α) (r : Fin m) (y : Fin l → α) : Table m n α :=
  ofFn fun i j => if h : i = r ∧ j < l then y ⟨j, h.2⟩ else t.get i j

def divideRow (t : Table m n α) (r : Fin m) (pivot : α) : Table m n α :=
  ofFn fun i j => if i = r then t.get r j / pivot else t.get i j

omit [Scalar α] in
lemma copyRow_flat {l : ℕ} (t : Table m n α) (r : Fin m) (y : Fin l → α) (h : l ≤ n) :
    copy t.flat (r * n) (r * n + l) (Array.ofFn y) = (.ok (t.copyRow r y).flat : Except (Fault α) (Array α)) := by
  have hslice := FlatMatrix.slice_flat t r (c := 0) (k := l) (by omega)
  rw [Nat.add_zero] at hslice
  rw [copy, hslice, ok_bind, if_pos (by simp), Array.size_ofFn]
  refine loop_patch (fun c i j => i = r ∧ j < c) (Nat.zero_le _) (by simp) ?_ fun c _ => ?_
  · intro i j
    by_cases hi : i = r ∧ j < l
    · exact .inl hi
    · exact .inr (by simp [copyRow, hi])
  · rw [load_eq (by simp), ok_bind]
    exact store_patch_last (j := c.castLE h) (by simp [copyRow]) fun i' j' => by
      simp only [Fin.ext_iff, Fin.val_castLE]
      omega

lemma divideRow_flat (t : Table m n α) (r : Fin m) (pivot : α) :
    FlatMatrix.divideRow n pivot r t.flat = .ok (t.divideRow r pivot).flat := by
  refine loop_patch (fun c i j => i = r ∧ j < c) (Nat.zero_le n) (by simp) ?_ fun c _ => ?_
  · intro i j
    by_cases hi : i = r
    · exact .inl ⟨hi, j.isLt⟩
    · exact .inr (by simp [divideRow, hi])
  · rw [load_patch (by simp), ok_bind]
    exact store_patch_last (by simp [divideRow]) fun i' j' => by
      simp only [Fin.ext_iff]
      omega

end Table

namespace FlatMatrix

variable {n : ℕ}

lemma augment_flat (t : Table n n α) : augment n (n + n) t.flat = .ok t.augment.flat := by
  refine Table.loop_patch (t := Table.zero) (fun r i _ => i < r) (Nat.zero_le n) (by simp)
    (fun i _ => .inl i.isLt) fun r _ => ?_
  have hslice := slice_row t r
  rw [Nat.succ_mul, hslice, ok_bind, Table.copyRow_flat _ r _ (by omega), ok_bind, Nat.add_assoc]
  refine (Table.store_flat _ r (Fin.natAdd n r) 1).trans ?_
  refine congrArg (fun t => Except.ok (Table.flat t)) ?_
  ext i j
  rw [Table.get_set, Table.copyRow, Table.get_ofFn, Table.get_patch, Table.get_patch, Table.augment, Table.get_ofFn]
  by_cases hi : i = r
  · subst hi
    by_cases hj : j.val < n
    · have hne : ¬j.val = n + i.val := by omega
      simp only [Fin.ext_iff, Fin.val_natAdd, hj, hne]
      simp
    · have hone : j.val = n + i.val ↔ j.val - n = i.val := by omega
      simp only [Fin.ext_iff, Fin.val_natAdd, hj, hone, get_zero]
      simp
  · have hlt : i.val < r.val + 1 ↔ i.val < r.val := by omega
    simp [hi, hlt]

lemma scan_flat {w : ℕ} (t : Table n w α) (k : Fin n) (c : Fin w) (hc : c.val = k.val) :
    scan n w t.flat k = .ok (t.pivotRow k c).val := by
  rw [scan, Table.pivotRow, ← hc]
  refine (congrArg _ hc).trans (loop_fold Fin.val _ (hc ▸ k.isLt) le_rfl ?_ ?_ k)
  · intro best r hr _
    have hkr : k < r := by omega
    rw [t.load_flat, ok_bind, t.load_flat, ok_bind]
    simp only [hkr, decide_true, Bool.true_and]
    split <;> rfl
  · intro best r hr
    have hkr : ¬k < r := by omega
    simp [hkr]

lemma get_reduce (t : Table n (n + n) α) (k i : Fin n) (j : Fin (n + n)) : (t.reduce k).get i j =
    if i = k then t.get k j / t.get k (k.castAdd n)
    else if t.get i (k.castAdd n) == 0 then t.get i j
    else t.get i j - t.get i (k.castAdd n) * (t.get k j / t.get k (k.castAdd n)) := by
  simp [Table.reduce, Vector.get_eq_getElem]

lemma reduce_flat (t : Table n (n + n) α) (k : Fin n) :
    reduce n (n + n) (t.get k (k.castAdd n)) k t.flat = .ok (t.reduce k).flat := by
  rw [reduce, Table.divideRow_flat, ok_bind]
  refine Table.loop_patch (fun r i _ => i ≠ k ∧ i < r) (Nat.zero_le n) (by simp) ?_ fun r _ => ?_
  · intro i j
    by_cases hi : i = k
    · exact .inr (by simp [get_reduce, Table.divideRow, hi])
    · exact .inl ⟨hi, i.isLt⟩
  · by_cases hr : r = k
    · rw [if_pos (congrArg Fin.val hr)]
      refine congrArg (fun t => Except.ok (Table.flat t)) (Table.patch_congr fun i j => .inl ?_)
      omega
    · have hload := Table.load_patch (p := fun i _ => i ≠ k ∧ i.val < r.val)
        (t := t.divideRow k (t.get k (k.castAdd n))) (u := t.reduce k) (i := r) (j := k.castAdd n) (by simp)
      rw [if_neg fun he => hr (Fin.ext he)]
      refine (congrArg (· >>= _) hload).trans ?_
      have hfactor : (t.divideRow k (t.get k (k.castAdd n))).get r (k.castAdd n) = t.get r (k.castAdd n) := by
        simp [Table.divideRow, hr]
      rw [ok_bind, hfactor]
      split
      · rename_i hzero
        refine congrArg (fun t => Except.ok (Table.flat t)) (Table.patch_congr fun i j => ?_)
        by_cases hi : i = r
        · exact .inr (by simp [get_reduce, Table.divideRow, hi, hr, hzero])
        · exact .inl (by omega)
      · rename_i hzero
        rw [Table.subtractRow_flat (Nat.zero_le _) (Ne.symm hr)]
        refine congrArg (fun t => Except.ok (Table.flat t)) ?_
        ext i j
        rw [Table.get_subtractRow, Table.get_patch, Table.get_patch, Table.get_patch, Table.get_patch]
        by_cases hi : i = r
        · subst hi
          simp [get_reduce, Table.divideRow, hr, hzero]
        · have hlt : i.val < r.val + 1 ↔ i.val < r.val := by omega
          simp [hi, hlt]

lemma clear_flat (t : Table n (n + n) α) (k : Fin n) :
    clear n (n + n) t.flat k = ((t.clear k).map Table.flat).mapError .refused := by
  have hload := t.load_flat (t.pivotRow k (k.castAdd n)) (k.castAdd n)
  rw [clear, scan_flat t k (k.castAdd n) rfl, ok_bind, Table.clear]
  refine (congrArg (· >>= _) hload).trans ?_
  rw [ok_bind]
  dsimp only
  split
  · rfl
  · have hk : ((t.swapRows k (t.pivotRow k (k.castAdd n))).get k (k.castAdd n)) =
        t.get (t.pivotRow k (k.castAdd n)) (k.castAdd n) := by simp
    by_cases h : t.pivotRow k (k.castAdd n) = k
    · have hne : ¬((t.pivotRow k (k.castAdd n)).val ≠ k.val) := by simp [h]
      rw [if_neg hne, ok_bind, h, Table.swapRows_self]
      exact reduce_flat t k
    · have hne : (t.pivotRow k (k.castAdd n)).val ≠ k.val := fun he => h (Fin.ext he)
      rw [if_pos hne, Table.swapRows_flat h, ok_bind, ← hk, reduce_flat]
      rfl

lemma inverse_eq (a : DenseMatrix α) : a.flat.inverse = outcome a.inverse := by
  rw [inverse, DenseMatrix.inverse]
  rcases square_cases a .inverse with ⟨n, t, rfl, hcheck⟩ | ⟨-, hsquare, hcheck⟩
  · have hclear := loop_foldlM Table.flat Table.clear (fun t k => clear_flat t k) t.augment
    rw [hcheck, square_self]
    simp only [DenseMatrix.flat, Nat.two_mul, ok_bind, augment_flat, hclear, Table.inverse_eq]
    cases (List.finRange n).foldlM Table.clear t.augment with
    | error e => rfl
    | ok reduced =>
      have hrows := loop_rows (Table.ofFn fun i j => reduced.get i (Fin.natAdd n j))
        (fun r => slice reduced.flat (r * (n + n) + n) ((r + 1) * (n + n))) fun i => by
          simp only [Nat.succ_mul, ← Nat.add_assoc, Table.get_ofFn]
          exact slice_flat reduced i (c := n) (k := n) le_rfl
      simp only [Except.map, Except.mapError, ok_bind, hrows]
      rfl
  · rw [hcheck, hsquare]
    rfl

end FlatMatrix

end

end Navigation
