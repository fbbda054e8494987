import Mathlib
import Navigation.Matrix.Document

/-! Buffers every access of which is checked, and loops over them. -/

namespace Navigation

/-- Why a computation on buffers has no result. An access `outside` is the fault of the computation, the
others are the caller's. -/
inductive Fault (α : Type) where
  | refused (error : DenseMatrix.Error α)
  | unread (failure : Json.Failure)
  | outside (index size : ℕ)

namespace Buffer

variable {α β σ τ : Type}

def load (xs : Array β) (i : ℕ) : Except (Fault α) β :=
  if h : i < xs.size then .ok xs[i] else .error (.outside i xs.size)

def store (xs : Array β) (i : ℕ) (x : β) : Except (Fault α) (Array β) :=
  if h : i < xs.size then .ok (xs.set i x) else .error (.outside i xs.size)

def swap (xs : Array β) (i j : ℕ) : Except (Fault α) (Array β) := do
  let x ← load xs i
  let y ← load xs j
  store (← store xs i y) j x

def slice (xs : Array β) (lo hi : ℕ) : Except (Fault α) (Array β) :=
  if lo ≤ hi ∧ hi ≤ xs.size then .ok (xs.extract lo hi) else .error (.outside hi xs.size)

def loop (lo hi : ℕ) (body : σ → ℕ → Except (Fault α) σ) (s : σ) : Except (Fault α) σ :=
  (List.range' lo (hi - lo)).foldlM body s

def loopDown (n : ℕ) (body : σ → ℕ → Except (Fault α) σ) (s : σ) : Except (Fault α) σ :=
  (List.range n).reverse.foldlM body s

def copy (xs : Array β) (lo hi : ℕ) (ys : Array β) : Except (Fault α) (Array β) := do
  let _ ← slice xs lo hi
  if ys.size = hi - lo then loop 0 ys.size (fun xs c => do store xs (lo + c) (← load ys c)) xs
  else .error (.outside ys.size (hi - lo))

def collect (n : ℕ) (item : ℕ → Except (Fault α) β) : Except (Fault α) (Array β) :=
  loop 0 n (fun xs i => do return xs.push (← item i)) #[]

@[simp] lemma ok_bind {ε : Type} (x : β) (f : β → Except ε σ) : (Except.ok x >>= f) = f x := rfl

lemma load_eq {xs : Array β} {i : ℕ} (h : i < xs.size) :
    (load xs i : Except (Fault α) β) = .ok xs[i] := dif_pos h

lemma store_eq {xs : Array β} {i : ℕ} (h : i < xs.size) (x : β) :
    (store xs i x : Except (Fault α) (Array β)) = .ok (xs.set i x) := dif_pos h

section

variable {f : σ → ℕ → Except (Fault α) σ} {lo hi n : ℕ} {s : σ}

lemma loop_add_one (hle : lo ≤ hi) :
    loop lo (hi + 1) f s = loop lo hi f s >>= fun s => f s hi := by
  have hlen : hi + 1 - lo = hi - lo + 1 := by omega
  rw [loop, hlen, List.range'_concat, List.foldlM_append]
  simp [loop, Nat.add_sub_cancel' hle]

lemma loop_error {fault : Fault α} (hlt : lo < hi) (h : f s lo = .error fault) :
    loop lo hi f s = .error fault := by
  obtain ⟨k, hk⟩ : ∃ k, hi - lo = k + 1 := ⟨hi - lo - 1, by omega⟩
  rw [loop, hk, List.range'_succ, List.foldlM_cons, h]
  rfl

lemma loop_eq (state : ℕ → σ) (hle : lo ≤ hi)
    (h : ∀ i : Fin hi, lo ≤ i.val → f (state i) i = .ok (state (i + 1))) :
    loop lo hi f (state lo) = .ok (state hi) := by
  induction hi, hle using Nat.le_induction with
  | base => rw [loop, Nat.sub_self, List.range'_zero, List.foldlM_nil]; rfl
  | succ hi hle ih =>
    rw [loop_add_one hle, ih fun i hi => h i.castSucc hi]
    exact h (Fin.last hi) hle

lemma range'_eq_map (n : ℕ) : List.range' 0 n = (List.finRange n).map Fin.val := by
  rw [List.map_coe_finRange_eq_range, List.range_eq_range']

lemma loop_foldlM (hold : τ → σ) (step : τ → Fin n → Except (DenseMatrix.Error α) τ)
    (h : ∀ t (i : Fin n), f (hold t) i = ((step t i).map hold).mapError .refused) (t : τ) :
    loop 0 n f (hold t) = (((List.finRange n).foldlM step t).map hold).mapError .refused := by
  rw [loop, Nat.sub_zero, range'_eq_map, List.foldlM_map]
  induction List.finRange n generalizing t with
  | nil => rfl
  | cons i is ih =>
    rw [List.foldlM_cons, List.foldlM_cons, h]
    cases step t i with
    | error e => rfl
    | ok t' => exact ih t'

lemma loop_fold (hold : τ → σ) (step : τ → Fin n → τ) (hle : lo ≤ hi) (hhi : hi ≤ n)
    (hin : ∀ t (i : Fin n), lo ≤ i.val → i.val < hi → f (hold t) i = .ok (hold (step t i)))
    (hout : ∀ t (i : Fin n), i.val < lo ∨ hi ≤ i.val → step t i = t) (t : τ) :
    loop lo hi f (hold t) = .ok (hold (Fin.foldl n step t)) := by
  have hskip (is : List (Fin n)) (his : ∀ i ∈ is, i.val < lo ∨ hi ≤ i.val) (t : τ) :
      is.foldl step t = t := by
    induction is with
    | nil => rfl
    | cons i is ih =>
      rw [List.foldl_cons, hout t i (his i List.mem_cons_self)]
      exact ih fun j hj => his j (List.mem_cons_of_mem i hj)
  let state (i : ℕ) : τ := ((List.finRange n).take i).foldl step t
  have hlo : state lo = t := hskip _ (fun i hi => .inl (by
    obtain ⟨k, hk, rfl⟩ := List.mem_take_iff_getElem.mp hi
    simpa using (lt_min_iff.mp hk).1)) t
  have hend : Fin.foldl n step t = state hi := by
    rw [Fin.foldl_eq_foldl_finRange, ← List.take_append_drop hi (List.finRange n), List.foldl_append]
    refine hskip _ (fun i hi => .inr ?_) _
    obtain ⟨k, hk, rfl⟩ := List.mem_drop_iff_getElem.mp hi
    simp
  have hstate (i : Fin n) : state (i + 1) = step (state i) i := by
    simp only [state]
    rw [List.take_add_one, List.foldl_append, List.getElem?_eq_getElem (by simp)]
    simp
  rw [hend, ← congrArg hold hlo]
  refine loop_eq (fun i => hold (state i)) hle fun i hi => ?_
  rw [show state (i.val + 1) = step (state i) (i.castLE hhi) from hstate (i.castLE hhi)]
  exact hin _ (i.castLE hhi) hi i.isLt

lemma collect_eq {item : ℕ → Except (Fault α) β} {f : Fin n → β} (h : ∀ i : Fin n, item i = .ok (f i)) :
    collect n item = .ok (Array.ofFn f) := by
  have hrun : collect n item = .ok ((List.ofFn f).take n).toArray :=
    loop_eq (fun k => ((List.ofFn f).take k).toArray) (Nat.zero_le n) fun i _ => by
      rw [h i, List.take_add_one, List.getElem?_eq_getElem (by simp)]
      simp
  simpa [List.take_of_length_le] using hrun

lemma foldlM_guard {ι : Type} (hold : τ → σ) {bad : ι → Bool} {fault : ι → Fault α} {step : τ → ι → τ}
    {f : σ → ι → Except (Fault α) σ}
    (h : ∀ t i, f (hold t) i = if bad i then .error (fault i) else .ok (hold (step t i)))
    (is : List ι) (t : τ) : is.foldlM f (hold t) =
      match is.find? bad with
      | some i => .error (fault i)
      | none => .ok (hold (is.foldl step t)) := by
  induction is generalizing t with
  | nil => rfl
  | cons i is ih =>
    rw [List.foldlM_cons, List.find?_cons, h]
    cases bad i with
    | true => rfl
    | false => exact ih (step t i)

lemma loopDown_guard (hold : τ → σ) {bad : Fin n → Bool} {fault : Fin n → Fault α} {step : Fin n → τ → τ}
    (h : ∀ t (i : Fin n), f (hold t) i = if bad i then .error (fault i) else .ok (hold (step i t))) (t : τ) :
    loopDown n f (hold t) =
      match (List.finRange n).reverse.find? bad with
      | some i => .error (fault i)
      | none => .ok (hold (Fin.foldr n step t)) := by
  rw [loopDown, ← List.map_coe_finRange_eq_range, ← List.map_reverse, List.foldlM_map, foldlM_guard hold h,
    List.foldl_reverse, Fin.foldr_eq_foldr_finRange]
  cases (List.finRange n).reverse.find? bad with
  | none => rfl
  | some i => rfl

lemma foldl_hit (f : σ → Fin n → σ) (c : Fin n) (s : σ) :
    Fin.foldl n (fun s i => if i = c then f s i else s) s = f s c := by
  have hlist (is : List (Fin n)) (hnodup : is.Nodup) (s : σ) :
      is.foldl (fun s i => if i = c then f s i else s) s = if c ∈ is then f s c else s := by
    induction is generalizing s with
    | nil => rfl
    | cons i is ih =>
      obtain ⟨hi, his⟩ := List.nodup_cons.mp hnodup
      rw [List.foldl_cons, ih his]
      by_cases hic : i = c
      · subst hic
        simp [hi]
      · simp [hic, Ne.symm hic]
  rw [Fin.foldl_eq_foldl_finRange, hlist _ (List.nodup_finRange n), if_pos (List.mem_finRange c)]

end

end Buffer

namespace Table

open Buffer

variable {m n : ℕ} {α : Type}

def flat (t : Table m n α) : Array α := t.entries.toArray

@[simp] lemma size_flat (t : Table m n α) : t.flat.size = m * n := Vector.size_toArray _

lemma eq_flat {xs : Array α} {t : Table m n α} (hsize : xs.size = m * n)
    (h : ∀ (i : Fin m) (j : Fin n), xs[i.val * n + j.val]? = some (t.get i j)) : xs = t.flat := by
  have ht : t = ⟨⟨xs, hsize⟩⟩ := by
    ext i j
    obtain ⟨_, hget⟩ := Array.getElem?_eq_some_iff.mp (h i j)
    exact hget.symm
  rw [ht, flat]

lemma load_flat (t : Table m n α) (i : Fin m) (j : Fin n) :
    (load t.flat (i * n + j) : Except (Fault α) α) = .ok (t.get i j) :=
  load_eq (t.size_flat ▸ address_lt i j)

lemma store_flat (t : Table m n α) (i : Fin m) (j : Fin n) (x : α) :
    (store t.flat (i * n + j) x : Except (Fault α) (Array α)) = .ok (t.set i j x).flat :=
  store_eq (t.size_flat ▸ address_lt i j) x

def patch (p : Fin m → Fin n → Prop) [∀ i j, Decidable (p i j)] (t u : Table m n α) : Table m n α :=
  ofFn fun i j => if p i j then u.get i j else t.get i j

section

variable {p q : Fin m → Fin n → Prop} [∀ i j, Decidable (p i j)] [∀ i j, Decidable (q i j)]
  {t u : Table m n α}

@[simp] lemma get_patch (i : Fin m) (j : Fin n) :
    (patch p t u).get i j = if p i j then u.get i j else t.get i j := get_ofFn _ i j

lemma patch_congr (h : ∀ i j, (p i j ↔ q i j) ∨ u.get i j = t.get i j) : patch p t u = patch q t u := by
  ext i j
  rw [get_patch, get_patch]
  rcases h i j with h | h
  · simp only [h]
  · rw [h, ite_self, ite_self]

lemma load_patch {i : Fin m} {j : Fin n} (h : p i j → u.get i j = t.get i j) :
    (load (patch p t u).flat (i * n + j) : Except (Fault α) α) = .ok (t.get i j) := by
  rw [load_flat, get_patch, ite_eq_right_iff.mpr h]

lemma store_patch {i : Fin m} {j : Fin n} {x : α} (hx : x = u.get i j) :
    (store (patch p t u).flat (i * n + j) x : Except (Fault α) (Array α)) =
      .ok (patch (fun i' j' => p i' j' ∨ i' = i ∧ j' = j) t u).flat := by
  rw [store_flat]
  congr 2
  ext i' j'
  rw [get_set, get_patch, get_patch]
  by_cases hc : i' = i ∧ j' = j
  · rw [if_pos hc, if_pos (.inr hc), hc.1, hc.2, hx]
  · simp only [hc, if_false, or_false]

lemma store_patch_last {i : Fin m} {j : Fin n} {x : α} (hx : x = u.get i j)
    (hq : ∀ i' j', (p i' j' ∨ i' = i ∧ j' = j) ↔ q i' j') :
    (store (patch p t u).flat (i * n + j) x : Except (Fault α) (Array α)) = .ok (patch q t u).flat := by
  rw [store_patch hx, patch_congr fun i' j' => .inl (hq i' j')]

end

lemma loop_patches {lo hi : ℕ} {t u : Table m n α} {f : Array α → ℕ → Except (Fault α) (Array α)}
    (p : ℕ → Fin m → Fin n → Prop) [∀ k i j, Decidable (p k i j)] (hle : lo ≤ hi)
    (h : ∀ k : Fin hi, lo ≤ k.val → f (patch (p k) t u).flat k = .ok (patch (p (k + 1)) t u).flat) :
    loop lo hi f (patch (p lo) t u).flat = .ok (patch (p hi) t u).flat :=
  loop_eq (fun k => (patch (p k) t u).flat) hle h

lemma loop_patch {lo hi : ℕ} {t u : Table m n α} {f : Array α → ℕ → Except (Fault α) (Array α)}
    (p : ℕ → Fin m → Fin n → Prop) [∀ k i j, Decidable (p k i j)] (hle : lo ≤ hi)
    (hlo : ∀ i j, p lo i j → u.get i j = t.get i j) (hhi : ∀ i j, p hi i j ∨ u.get i j = t.get i j)
    (h : ∀ k : Fin hi, lo ≤ k.val → f (patch (p k) t u).flat k = .ok (patch (p (k + 1)) t u).flat) :
    loop lo hi f t.flat = .ok u.flat := by
  have hrun := loop_patches p hle h
  have ht : patch (p lo) t u = t := by
    ext i j
    rw [get_patch, ite_eq_right_iff]
    exact hlo i j
  have hu : patch (p hi) t u = u := by
    ext i j
    rw [get_patch, ite_eq_left_iff]
    exact fun hp => ((hhi i j).resolve_left hp).symm
  rwa [ht, hu] at hrun

lemma get_foldl {k : ℕ} {step : Table m n α → Fin k → Table m n α} (act : α → Fin k → α) {i : Fin m}
    {j : Fin n} (h : ∀ t c, (step t c).get i j = act (t.get i j) c) (t : Table m n α) :
    (Fin.foldl k step t).get i j = Fin.foldl k act (t.get i j) := by
  rw [Fin.foldl_eq_foldl_finRange, Fin.foldl_eq_foldl_finRange]
  exact (List.foldl_hom (fun t => t.get i j) fun t c => (h t c).symm).symm

end Table

end Navigation
