import Mathlib
import Navigation.Proofs.Matrix.Factorization

namespace Navigation

namespace Factors

open Matrix

section

variable {n : ℕ} {α : Type} {r : Fin n → Fin n → Prop} {rows : List (Fin n)} {i : Fin n}

def fill (g : Vector α n → Fin n → α) (rows : List (Fin n)) (x : Vector α n) : Vector α n :=
  rows.foldl (fun x (i : Fin n) => x.set i (g x i) i.isLt) x

lemma get_fill_of_notMem (g : Vector α n → Fin n → α) (h : i ∉ rows) (x : Vector α n) :
    (fill g rows x).get i = x.get i := by
  induction rows generalizing x with
  | nil => rfl
  | cons k rows ih =>
    obtain ⟨hk, hrows⟩ := not_or.mp (List.mem_cons.not.mp h)
    refine (ih hrows _).trans ?_
    simp only [Vector.get_eq_getElem, Vector.getElem_set, Fin.val_inj]
    exact if_neg (Ne.symm hk)

lemma get_fill {g : Vector α n → Fin n → α} (hr : ∀ i j, r i j → ¬r j i)
    (hg : ∀ x y i, (∀ j, r j i → x.get j = y.get j) → g x i = g y i) (hrows : rows.Pairwise r) (x : Vector α n)
    (h : i ∈ rows) : (fill g rows x).get i = g (fill g rows x) i := by
  induction rows generalizing x with
  | nil => cases h
  | cons k rows ih =>
    obtain ⟨hk, hrest⟩ := List.pairwise_cons.mp hrows
    rcases List.mem_cons.mp h with rfl | h
    · have hnot : i ∉ rows := fun hi => hr i i (hk i hi) (hk i hi)
      have hself : (fill g (i :: rows) x).get i = g x i := by
        refine (get_fill_of_notMem g hnot _).trans ?_
        simp [Vector.get_eq_getElem]
      rw [hself]
      -- none of the entries that this one is made of is set later
      refine hg _ _ i fun j hj => ?_
      have hne : j ∉ i :: rows := by
        intro hmem
        rcases List.mem_cons.mp hmem with rfl | hmem
        · exact hr j j hj hj
        · exact hr i j (hk j hmem) hj
      exact (get_fill_of_notMem g hne x).symm
    · exact ih hrest _ h

end

variable {n m : ℕ} {K : Type} [Field K] [LinearOrder K] [Rooted K] {f : Factors n K} {t : Table n n K} {i : Fin n}

lemma foldl_sub (p : Fin n → Prop) [DecidablePred p] (g : Fin n → K) (s : K) :
    Fin.foldl n (fun sum j => if p j then sum - g j else sum) s = s - ∑ j, if p j then g j else 0 := by
  rw [Fin.foldl_eq_foldl_finRange, Fin.sum_univ_def]
  induction List.finRange n generalizing s with
  | nil => rw [List.foldl_nil, List.map_nil, List.sum_nil, sub_zero]
  | cons j rows ih =>
    rw [List.foldl_cons, ih, List.map_cons, List.sum_cons]
    split <;> ring

lemma forward_eq (f : Factors n K) (b : Vector K n) : f.forward b =
    fill (fun y i => b.get (f.perm.get i) - ∑ j, if j < i then f.lu.get i j * y.get j else 0) (List.finRange n)
      (Vector.replicate n 0) := by
  simp only [forward, foldl_sub]
  rw [Fin.foldl_eq_foldl_finRange]
  rfl

lemma backward_eq (f : Factors n K) (y : Vector K n) : f.backward y =
    fill (fun x i => (y.get i - ∑ j, if i < j then f.lu.get i j * x.get j else 0) / f.lu.get i i)
      (List.finRange n).reverse (Vector.replicate n 0) := by
  simp only [backward, foldl_sub]
  rw [Fin.foldr_eq_foldr_finRange, fill, List.foldl_reverse]

lemma get_forward (f : Factors n K) (b : Vector K n) (i : Fin n) : (f.forward b).get i =
    b.get (f.perm.get i) - ∑ j, if j < i then f.lu.get i j * (f.forward b).get j else 0 := by
  rw [forward_eq]
  refine get_fill (r := (· < ·)) (fun i j => lt_asymm) (fun x y i h => ?_) (List.pairwise_lt_finRange n) _
    (List.mem_finRange i)
  refine congrArg _ (Finset.sum_congr rfl fun j _ => ite_congr rfl (fun hj => ?_) fun _ => rfl)
  rw [h j hj]

lemma get_backward (f : Factors n K) (y : Vector K n) (i : Fin n) : (f.backward y).get i =
    (y.get i - ∑ j, if i < j then f.lu.get i j * (f.backward y).get j else 0) / f.lu.get i i := by
  rw [backward_eq]
  refine get_fill (r := (· > ·)) (fun i j => lt_asymm) (fun x y i h => ?_)
    (List.pairwise_reverse.mpr (List.pairwise_lt_finRange n)) _ (List.mem_reverse.mpr (List.mem_finRange i))
  refine congrArg (fun s => (_ - s) / _) (Finset.sum_congr rfl fun j _ => ite_congr rfl (fun hj => ?_) fun _ => rfl)
  rw [h j hj]

lemma lower_mulVec_forward (f : Factors n K) (b : Vector K n) :
    f.lower n *ᵥ (f.forward b).get = b.get ∘ f.perm.get := by
  funext i
  have hm : (f.multipliers n *ᵥ (f.forward b).get) i =
      ∑ j, if j < i then f.lu.get i j * (f.forward b).get j else 0 := by
    change ∑ j, f.multipliers n i j * (f.forward b).get j = _
    simp only [multipliers_of_card_le le_rfl, ite_mul, zero_mul]
  rw [lower, add_mulVec, one_mulVec, Pi.add_apply, hm, get_forward, sub_add_cancel]
  rfl

def solution (f : Factors n K) (b : Table n m K) : Table n m K :=
  Table.ofFn fun i j => (f.backward (f.forward (Vector.ofFn fun i => b.get i j))).get i

lemma solve_of_not_deficient (h : ¬f.Deficient) (b : Table n m K) : f.solve b = .ok (f.solution b) := by
  have hnone : f.singularRow? = none := List.find?_eq_none.mpr fun i _ hi => h ⟨i, hi⟩
  rw [solve, hnone]
  refine congrArg Except.ok (Table.ext fun i j => ?_)
  rw [solution, Table.get_ofFn, Table.get_ofFn, Vector.get_ofFn]

variable [IsStrictOrderedRing K]

lemma upper_mulVec_backward (h : ¬f.Deficient) (y : Vector K n) : f.upper n *ᵥ (f.backward y).get = y.get := by
  funext i
  have hentry (j : Fin n) : f.upper n i j * (f.backward y).get j =
      (if i = j then f.lu.get i j * (f.backward y).get j else 0) +
        if i < j then f.lu.get i j * (f.backward y).get j else 0 := by
    rw [upper_apply, multipliers_of_card_le le_rfl]
    rcases lt_trichotomy i j with hj | rfl | hj
    · simp [hj, hj.ne, hj.not_gt]
    · simp
    · simp [hj, hj.ne', hj.not_gt]
  change ∑ j, f.upper n i j * (f.backward y).get j = _
  simp only [hentry]
  rw [Finset.sum_add_distrib, Finset.sum_ite_eq, if_pos (Finset.mem_univ i), get_backward,
    mul_div_cancel₀ _ (pivot_ne_zero h i), sub_add_cancel]

lemma mulVec_backward (h : ¬(ofTable t).Deficient) (b : Vector K n) :
    t.matrix *ᵥ ((ofTable t).backward ((ofTable t).forward b)).get = b.get := by
  obtain ⟨σ, hperm, -⟩ := exists_permuted t
  have hrows : (t.matrix.submatrix (ofTable t).perm.get id) *ᵥ
      ((ofTable t).backward ((ofTable t).forward b)).get = b.get ∘ (ofTable t).perm.get := by
    rw [← splits_ofTable h, ← mulVec_mulVec, upper_mulVec_backward h, lower_mulVec_forward]
  funext i
  have hi := congrFun hrows (σ.symm i)
  rw [Function.comp_apply, hperm, Equiv.apply_symm_apply] at hi
  refine Eq.trans ?_ hi
  change _ = ∑ j, t.get ((ofTable t).perm.get (σ.symm i)) j * _
  rw [hperm, Equiv.apply_symm_apply]
  rfl

lemma det_ne_zero (h : ¬(ofTable t).Deficient) : t.matrix.det ≠ 0 := by
  have hsign : (ofTable t).sign ≠ 0 := by
    rw [ofTable_eq]
    exact sign_foldl_stage _ one_ne_zero
  rw [← determinant_ofTable h]
  exact mt (determinant_eq_zero_iff hsign).mp h

lemma mul_solution (h : ¬(ofTable t).Deficient) (b : Table n m K) :
    t.matrix * ((ofTable t).solution b).matrix = b.matrix := by
  ext i j
  have hcolumn : ((ofTable t).solution b).matrix.col j =
      ((ofTable t).backward ((ofTable t).forward (Vector.ofFn fun i => b.get i j))).get := by
    funext i
    rw [col_apply, Table.matrix_apply, solution, Table.get_ofFn]
  have hi := congrFun (mulVec_backward h (Vector.ofFn fun i => b.get i j)) i
  rw [← hcolumn, Vector.get_ofFn] at hi
  exact hi

end Factors

namespace DenseMatrix

variable {n m : ℕ} {K : Type} [Field K] [LinearOrder K] [IsStrictOrderedRing K] [Rooted K]

/-- A system with at least one right-hand side has an answer if every stage finds a pivot that is large enough, and
its answer is the only solution. -/
theorem solve_unique (a : Table n n K) (b : Table n m K) (hm : 0 < m) :
    ((∃ x, (⟨n, n, a⟩ : DenseMatrix K).solve ⟨n, m, b⟩ = .ok x) ↔
      ∀ k, Scalar.pivotTolerance ≤ (Factors.before a k).bestPivot k) ∧
    ∀ x, (⟨n, n, a⟩ : DenseMatrix K).solve ⟨n, m, b⟩ = .ok x →
      ∃ s : Table n m K, x = ⟨n, m, s⟩ ∧ a.matrix * s.matrix = b.matrix ∧
        ∀ y : Matrix (Fin n) (Fin m) K, a.matrix * y = b.matrix → y = s.matrix := by
  rw [← Factors.not_deficient_iff, solve_eq]
  rcases (Factors.ofTable a).solve_cases b hm with ⟨-, hd⟩ | ⟨⟨k, p, hsolve⟩, hd⟩
  · rw [Factors.solve_of_not_deficient hd]
    refine ⟨iff_of_true ⟨_, rfl⟩ hd, fun x hx => ⟨_, (Except.ok.inj hx).symm, Factors.mul_solution hd b, ?_⟩⟩
    intro y hy
    have hunit := (Factors.det_ne_zero hd).isUnit
    rw [← Matrix.nonsing_inv_mul_cancel_left a.matrix y hunit, hy, ← Factors.mul_solution hd b,
      Matrix.nonsing_inv_mul_cancel_left a.matrix _ hunit]
  · rw [hsolve]
    exact ⟨iff_of_false (by rintro ⟨x, hx⟩; cases hx) (not_not_intro hd), fun x hx => by cases hx⟩

def sides : Table 3 2 ℚ := ⟨#v[3, 2, 2, 1, 4, 5]⟩

theorem solve_unique_crossed : ∃ s : Table 3 2 ℚ,
    (⟨3, 3, crossed⟩ : DenseMatrix ℚ).solve ⟨3, 2, sides⟩ = .ok ⟨3, 2, s⟩ ∧ s.matrix = !![1, 1; 1, 0; 1, 2] := by
  obtain ⟨hok, hunique⟩ := solve_unique crossed sides (by decide)
  obtain ⟨x, hx⟩ := hok.mpr bestPivot_crossed
  obtain ⟨s, rfl, -, hs⟩ := hunique x hx
  exact ⟨s, hx, (hs _ (by decide +kernel)).symm⟩

end DenseMatrix

end Navigation
