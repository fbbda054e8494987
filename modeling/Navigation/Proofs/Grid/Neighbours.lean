import Navigation.Proofs.Grid.Roads

namespace Navigation

/-- The sum of a word and a signed word, if it is a word: the sum of the words carries exactly if what is added
is negative. -/
def Word.shifted? (x : UInt64) (d : Int64) : Option UInt64 :=
  let carry := decide (2 ^ 64 ≤ x.toNat + d.toUInt64.toNat)
  if carry ^^ decide (d < 0) then none else some (x + d.toUInt64)

lemma Word.shifted?_eq_some {x y : UInt64} {d : Int64} :
    shifted? x d = some y ↔ (y.toNat : ℤ) = x.toNat + d.toInt := by
  have hx := x.toNat_lt
  have hy := y.toNat_lt
  have hd := d.toUInt64.toNat_lt
  have hsigned : d.toInt =
      if 2 * d.toUInt64.toNat < 2 ^ 64 then (d.toUInt64.toNat : ℤ) else d.toUInt64.toNat - 2 ^ 64 :=
    BitVec.toInt_eq_toNat_cond _
  have hstray : (decide (2 ^ 64 ≤ x.toNat + d.toUInt64.toNat) ^^ decide (d < 0)) = true ↔
      ¬(0 ≤ x.toNat + d.toInt ∧ x.toNat + d.toInt < 2 ^ 64) := by
    rw [bne_iff_ne, ne_eq, decide_eq_decide, Int64.lt_iff_toInt_lt, Int64.toInt_zero]
    split at hsigned <;> omega
  simp only [shifted?, hstray, ite_not]
  by_cases h : 0 ≤ x.toNat + d.toInt ∧ x.toNat + d.toInt < 2 ^ 64
  · rw [if_pos h, Option.some_inj, ← UInt64.toNat_inj, UInt64.toNat_add]
    split at hsigned <;> omega
  · rw [if_neg h]
    exact iff_of_false nofun (by omega)

namespace Point

variable {width height : ℕ} {p q : Point} {offsets : List (ℤ × ℤ)}

def chebyshev (p q : Point) : ℕ := max (apart p.x q.x) (apart p.y q.y)

lemma chebyshev_comm (p q : Point) : p.chebyshev q = q.chebyshev p := by
  simp only [chebyshev, apart]
  omega

def Lists (l : List (Cell width height)) (P : Point → Prop) : Prop :=
  (l.map Cell.toPoint).Nodup ∧ ∀ q, q ∈ l.map Cell.toPoint ↔ q.Inside width height ∧ P q

lemma lists_of_mem {l : List (Cell width height)} {P : Point → Prop} (hl : l.Nodup)
    (hmem : ∀ d, d ∈ l ↔ P d.toPoint) : Lists l P := by
  refine ⟨hl.map Cell.toPoint_injective, fun q => ?_⟩
  rw [List.mem_map]
  constructor
  · rintro ⟨d, hd, rfl⟩
    exact ⟨d.inside, (hmem d).mp hd⟩
  · rintro ⟨hq, hP⟩
    exact ⟨⟨q, hq⟩, (hmem ⟨q, hq⟩).mpr hP, rfl⟩

lemma nodup_around (h : offsets.Nodup) : (p.around width height offsets : List (Cell width height)).Nodup := by
  refine h.filterMap fun o o' d hd hd' => ?_
  rw [Option.mem_def, shift?_bind_eq_some] at hd hd'
  rw [hd, hd']

lemma mem_neighbors8 {d : Cell width height} : d ∈ p.neighbors8 width height ↔ p.chebyshev d.toPoint = 1 := by
  rw [neighbors8, List.mem_append, mem_neighbors4, mem_diagonals]
  simp only [manhattan, chebyshev, apart]
  omega

lemma disjoint_diagonals : List.Disjoint (p.neighbors4 width height) (p.diagonals width height) := by
  intro d hstraight hslanted
  rw [mem_neighbors4] at hstraight
  rw [mem_diagonals] at hslanted
  simp only [manhattan] at hstraight
  omega

lemma lists_neighbors4 (width height : ℕ) (p : Point) :
    Lists (p.neighbors4 width height) fun q => p.manhattan q = 1 :=
  lists_of_mem (nodup_around (by decide)) fun _ => mem_neighbors4

lemma nodup_neighbors8 (width height : ℕ) (p : Point) : (p.neighbors8 width height).Nodup :=
  (nodup_around (by decide)).append (nodup_around (by decide)) disjoint_diagonals

lemma lists_neighbors8 (width height : ℕ) (p : Point) :
    Lists (p.neighbors8 width height) fun q => p.chebyshev q = 1 :=
  lists_of_mem (nodup_neighbors8 width height p) fun _ => mem_neighbors8

section Words

def ofWords (w : UInt64 × UInt64) : Point := ⟨w.1.toNat, w.2.toNat⟩

def beside? (width height : UInt64) (w : UInt64 × UInt64) (step : Int64 × Int64) :
    Option (UInt64 × UInt64) := do
  let x ← Word.shifted? w.1 step.1
  let y ← Word.shifted? w.2 step.2
  if x < width ∧ y < height then some (x, y) else none

def straightSteps : List (Int64 × Int64) := [(0, -1), (0, 1), (-1, 0), (1, 0)]

def diagonalSteps : List (Int64 × Int64) := [(-1, -1), (1, -1), (-1, 1), (1, 1)]

def straightBeside (width height : UInt64) (w : UInt64 × UInt64) : List (UInt64 × UInt64) :=
  straightSteps.filterMap (beside? width height w)

def allBeside (width height : UInt64) (w : UInt64 × UInt64) : List (UInt64 × UInt64) :=
  straightBeside width height w ++ diagonalSteps.filterMap (beside? width height w)

variable (width height : UInt64) (w : UInt64 × UInt64)

lemma beside?_eq_some {v : UInt64 × UInt64} {step : Int64 × Int64} : beside? width height w step = some v ↔
    ((v.1.toNat : ℤ) = w.1.toNat + step.1.toInt ∧ (v.2.toNat : ℤ) = w.2.toNat + step.2.toInt) ∧
      (ofWords v).Inside width.toNat height.toNat := by
  obtain ⟨x, y⟩ := v
  have hbind : beside? width height w step = some (x, y) ↔
      ∃ x', Word.shifted? w.1 step.1 = some x' ∧ ∃ y', Word.shifted? w.2 step.2 = some y' ∧
        (if x' < width ∧ y' < height then some (x', y') else none) = some (x, y) := by
    rw [beside?, Option.bind_eq_bind, Option.bind_eq_some_iff]
    simp only [Option.bind_eq_some_iff]
  rw [hbind]
  simp only [Word.shifted?_eq_some, Option.ite_none_right_eq_some, Option.some_inj, Prod.mk.injEq]
  constructor
  · rintro ⟨x, hx, y, hy, hin, rfl, rfl⟩
    exact ⟨⟨hx, hy⟩, hin⟩
  · rintro ⟨⟨hx, hy⟩, hin⟩
    exact ⟨x, hx, y, hy, hin, rfl, rfl⟩

lemma map_beside? (step : Int64 × Int64) : (beside? width height w step).map ofWords =
    (((ofWords w).shift? (step.1.toInt, step.2.toInt)).bind
      (Cell.ofPoint? width.toNat height.toNat)).map Cell.toPoint := by
  have hwidth := width.toNat_lt
  have hheight := height.toNat_lt
  ext q
  rw [Option.map_eq_some_iff, Option.map_eq_some_iff]
  constructor
  · rintro ⟨v, hv, rfl⟩
    obtain ⟨⟨hx, hy⟩, hin⟩ := (beside?_eq_some _ _ _).mp hv
    refine ⟨⟨ofWords v, hin⟩, ?_, rfl⟩
    rw [shift?_bind_eq_some, Prod.mk.injEq]
    simp only [ofWords]
    omega
  · rintro ⟨d, hd, rfl⟩
    rw [shift?_bind_eq_some, Prod.mk.injEq] at hd
    have hx : (UInt64.ofNat d.x).toNat = d.x := UInt64.toNat_ofNat_of_lt' (d.inside.1.trans hwidth)
    have hy : (UInt64.ofNat d.y).toNat = d.y := UInt64.toNat_ofNat_of_lt' (d.inside.2.trans hheight)
    have hpoint : ofWords (UInt64.ofNat d.x, UInt64.ofNat d.y) = d.toPoint := by rw [ofWords, hx, hy]
    have hin : (ofWords (UInt64.ofNat d.x, UInt64.ofNat d.y)).Inside width.toNat height.toNat := by
      rw [hpoint]
      exact d.inside
    refine ⟨(UInt64.ofNat d.x, UInt64.ofNat d.y), (beside?_eq_some _ _ _).mpr ⟨?_, hin⟩, hpoint⟩
    simp only [ofWords, hx, hy] at hd ⊢
    omega

lemma map_filterMap_beside? (steps : List (Int64 × Int64)) :
    (steps.filterMap (beside? width height w)).map ofWords = ((ofWords w).around width.toNat height.toNat
      (steps.map fun step => (step.1.toInt, step.2.toInt))).map Cell.toPoint := by
  rw [around, List.map_filterMap, List.map_filterMap, List.filterMap_map]
  exact List.filterMap_congr fun step _ => map_beside? width height w step

lemma map_straightBeside : (straightBeside width height w).map ofWords =
    ((ofWords w).neighbors4 width.toNat height.toNat).map Cell.toPoint :=
  map_filterMap_beside? width height w straightSteps

lemma map_allBeside : (allBeside width height w).map ofWords =
    ((ofWords w).neighbors8 width.toNat height.toNat).map Cell.toPoint := by
  rw [allBeside, neighbors8, List.map_append, List.map_append, map_straightBeside]
  exact congrArg _ (map_filterMap_beside? width height w diagonalSteps)

end Words

end Point

end Navigation
