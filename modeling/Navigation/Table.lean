/-! Rectangular tables stored row after row. -/

namespace Navigation

structure Table (rows cols : Nat) (α : Type) where
  entries : Vector α (rows * cols)
  deriving DecidableEq, Repr

namespace Table

variable {m n k : Nat} {α β : Type}

theorem address_lt (i : Fin m) (j : Fin n) : i.val * n + j.val < m * n :=
  calc i.val * n + j.val < i.val * n + n := by omega
    _ = (i.val + 1) * n := by rw [Nat.add_mul, Nat.one_mul]
    _ ≤ m * n := Nat.mul_le_mul_right n i.isLt

def address (i : Fin m) (j : Fin n) : Fin (m * n) := ⟨i.val * n + j.val, address_lt i j⟩

def rowOf (a : Fin (m * n)) : Fin m :=
  ⟨a.val / n, Nat.div_lt_of_lt_mul (Nat.mul_comm m n ▸ a.isLt)⟩

def colOf (a : Fin (m * n)) : Fin n :=
  ⟨a.val % n, Nat.mod_lt _ (Nat.pos_of_ne_zero fun h => by
    subst h; exact absurd a.isLt (by simp))⟩

@[simp] theorem rowOf_address (i : Fin m) (j : Fin n) : rowOf (address i j) = i := by
  apply Fin.ext
  have hn : 0 < n := Nat.lt_of_le_of_lt (Nat.zero_le _) j.isLt
  simp [rowOf, address, Nat.add_comm, Nat.add_mul_div_right _ _ hn, Nat.div_eq_of_lt j.isLt]

@[simp] theorem colOf_address (i : Fin m) (j : Fin n) : colOf (address i j) = j := by
  apply Fin.ext
  simp [colOf, address, Nat.add_comm, Nat.mod_eq_of_lt j.isLt]

@[simp] theorem address_rowOf_colOf (a : Fin (m * n)) : address (rowOf a) (colOf a) = a := by
  apply Fin.ext
  simp [rowOf, colOf, address, Nat.mul_comm, Nat.div_add_mod]

def get (t : Table m n α) (i : Fin m) (j : Fin n) : α := t.entries[address i j]

@[inline] def ofFn (f : Fin m → Fin n → α) : Table m n α :=
  ⟨Vector.ofFn fun a => f (rowOf a) (colOf a)⟩

def set (t : Table m n α) (i : Fin m) (j : Fin n) (x : α) : Table m n α :=
  ⟨t.entries.set (address i j) x⟩

def row (t : Table m n α) (i : Fin m) : List α := List.ofFn fun j => t.get i j

@[simp] theorem get_ofFn (f : Fin m → Fin n → α) (i : Fin m) (j : Fin n) :
    (ofFn f).get i j = f i j := by
  simp [get, ofFn]

theorem get_set (t : Table m n α) (i r : Fin m) (j c : Fin n) (x : α) :
    (t.set i j x).get r c = if r = i ∧ c = j then x else t.get r c := by
  by_cases h : r = i ∧ c = j
  · obtain ⟨rfl, rfl⟩ := h
    simp [get, set]
  · have ha : (address i j).val ≠ (address r c).val := fun ha => h (by
      have he : address i j = address r c := Fin.ext ha
      exact ⟨by simpa using (congrArg rowOf he).symm, by simpa using (congrArg colOf he).symm⟩)
    simp [get, set, h, Vector.getElem_set_ne, ha]

@[ext] theorem ext {s t : Table m n α} (h : ∀ i j, s.get i j = t.get i j) : s = t := by
  obtain ⟨s⟩ := s
  obtain ⟨t⟩ := t
  congr 1
  apply Vector.ext
  intro a ha
  have he := h (rowOf ⟨a, ha⟩) (colOf ⟨a, ha⟩)
  simpa [get] using he

def map (f : α → β) (t : Table m n α) : Table m n β := ⟨t.entries.map f⟩

@[simp] theorem get_map (f : α → β) (t : Table m n α) (i : Fin m) (j : Fin n) :
    (t.map f).get i j = f (t.get i j) := by
  simp [get, map]

def zipWith (f : α → α → β) (s t : Table m n α) : Table m n β := ⟨s.entries.zipWith f t.entries⟩

@[simp] theorem get_zipWith (f : α → α → β) (s t : Table m n α) (i : Fin m) (j : Fin n) :
    (s.zipWith f t).get i j = f (s.get i j) (t.get i j) := by
  simp [get, zipWith]

def transpose (t : Table m n α) : Table n m α := ofFn fun i j => t.get j i

@[simp] theorem get_transpose (t : Table m n α) (i : Fin n) (j : Fin m) :
    t.transpose.get i j = t.get j i := by
  simp [transpose]

def swapRows (t : Table m n α) (r s : Fin m) : Table m n α :=
  ofFn fun i j => t.get (if i = r then s else if i = s then r else i) j

def gatherCols (t : Table m n α) (order : Vector (Fin n) k) : Table m k α :=
  ofFn fun i j => t.get i order[j]

end Table

end Navigation
