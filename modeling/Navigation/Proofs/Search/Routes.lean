import Navigation.Proofs.Search.Weighted

namespace Navigation.Priority

lemma toFloat_ofFloat (x : Float) : (ofFloat x).toFloat = x := by
  rw [ofFloat]
  split
  · rename_i h
    have hu : x.toModel.unpack = .notANumber := by
      change x.toModel.unpack.isNaN = true at h
      cases hx : x.toModel.unpack <;> rw [hx] at h <;> first | rfl | cases h
    have hx : Float.ofModel (Float.Model.pack x.toModel.unpack) = x := Float.ofBits_toBits x
    rw [← hx, hu]
    rfl
  · exact Float.ofBits_toBits x

end Navigation.Priority

namespace Navigation.Search

abbrev Moves (width height : ℕ) : Type := Cell width height → List (Cell width height × Float)

variable {width height : ℕ} {moves : Moves width height} {estimate : Point → Float}
  {start goal c d : Cell width height} {x : Float} {path : List (Cell width height)}

inductive Route (moves : Moves width height) (start : Cell width height) :
    Cell width height → List (Cell width height) → Float → Prop
  | home : Route moves start start [start] 0.0
  | next {c d : Cell width height} {path : List (Cell width height)} {x s : Float} :
      Route moves start c path x → (d, s) ∈ moves c → d ∉ path →
        Route moves start d (path ++ [d]) (x + s)

def Leads (moves : Moves width height) (c d : Cell width height) : Prop := ∃ s, (d, s) ∈ moves c

namespace Route

lemma nodup (h : Route moves start c path x) : path.Nodup := by
  induction h with
  | home => simp
  | next _ _ hd ih => simpa [List.nodup_append, ih] using fun a ha => ne_of_mem_of_not_mem ha hd

lemma head (h : Route moves start c path x) : path.head? = some start := by
  induction h with
  | home => rfl
  | next _ _ _ ih => simp [List.head?_append, ih]

lemma last (h : Route moves start c path x) : path.getLast? = some c := by
  cases h <;> simp

lemma chain (h : Route moves start c path x) : path.IsChain (Leads moves) := by
  induction h with
  | home => exact .singleton _
  | next hr hm _ ih =>
    refine ih.append (.singleton _) fun c hc d hd => ?_
    simp only [hr.last, Option.mem_def, Option.some_inj, List.head?_cons] at hc hd
    exact hc ▸ hd ▸ ⟨_, hm⟩

lemma reachable (h : Route moves start c path x) : Relation.ReflTransGen (Leads moves) start c := by
  induction h with
  | home => exact .refl
  | next _ hm _ ih => exact ih.tail ⟨_, hm⟩

lemma length_le (h : Route moves start c path x) : path.length ≤ width * height := by
  rw [← Cell.card_eq]
  exact h.nodup.length_le_card

end Route

namespace Progress

variable {p : Progress width height} {node : Node width height} {rest : List (Node width height)}

def Takes (p : Progress width height) (node : Node width height) (rest : List (Node width height)) : Prop :=
  p.opened.dropWhile (fun a => p.closed.lookup a.cell) = node :: rest

def expand (moves : Moves width height) (estimate : Point → Float) (p : Progress width height)
    (node : Node width height) (rest : List (Node width height)) : Progress width height :=
  (moves node.cell).foldl (relax estimate node) (p.close node.cell rest)

inductive Back (parents : Table height width (Option (Cell width height))) :
    Cell width height → List (Cell width height) → Prop
  | root {c : Cell width height} : parents.lookup c = none → Back parents c [c]
  | next {c d : Cell width height} {path : List (Cell width height)} :
      parents.lookup c = some d → Back parents d path → Back parents c (path ++ [c])

/-- How the search ends if neither its rounds nor its steps back are counted. -/
inductive Ends (moves : Moves width height) (estimate : Point → Float) (goal : Cell width height) :
    Progress width height → Plan → Prop
  | empty {p : Progress width height} : p.opened = [] → Ends moves estimate goal p (.failed p.explored)
  | stale {p : Progress width height} {node : Node width height} {rest : List (Node width height)}
      {a : Plan} : p.opened = node :: rest → p.closed.lookup node.cell = true →
        Ends moves estimate goal { p with opened := rest } a → Ends moves estimate goal p a
  | found {p : Progress width height} {node : Node width height} {rest : List (Node width height)}
      {path : List (Cell width height)} : p.opened = node :: rest → p.closed.lookup node.cell = false →
        node.cell = goal → Back p.parents goal path →
        Ends moves estimate goal p (.found (path.map Cell.toPoint) node.cost.toFloat (p.explored + 1))
  | next {p : Progress width height} {node : Node width height} {rest : List (Node width height)}
      {a : Plan} : p.opened = node :: rest → p.closed.lookup node.cell = false → node.cell ≠ goal →
        Ends moves estimate goal (p.expand moves estimate node rest) a → Ends moves estimate goal p a

namespace Takes

variable (h : p.Takes node rest)
include h

lemma closed_eq_false : p.closed.lookup node.cell = false := (dropWhile_eq_cons h).1

lemma sublist : (node :: rest).Sublist p.opened := (dropWhile_eq_cons h).2.1

lemma mem : node ∈ p.opened := h.sublist.subset List.mem_cons_self

lemma mem_of_rest {a : Node width height} (ha : a ∈ rest) : a ∈ p.opened :=
  h.sublist.subset (List.mem_cons_of_mem _ ha)

lemma mem_rest {a : Node width height} (ha : a ∈ p.opened) (hc : p.closed.lookup a.cell = false)
    (hne : a.cell ≠ node.cell) : a ∈ rest :=
  (List.mem_cons.mp ((dropWhile_eq_cons h).2.2 a ha hc)).resolve_left fun he => hne (he ▸ rfl)

end Takes

namespace Back

variable {parents : Table height width (Option (Cell width height))} {path' : List (Cell width height)}

lemma unique (h : Back parents c path) (h' : Back parents c path') : path = path' := by
  induction h generalizing path' with
  | root hc =>
    cases h' with
    | root => rfl
    | next hc' => simp [hc] at hc'
  | next hc _ ih =>
    cases h' with
    | root hc' => simp [hc] at hc'
    | next hc' hb =>
      rw [hc, Option.some_inj] at hc'
      rw [ih (hc' ▸ hb)]

lemma put (h : Back parents c path) (hd : d ∉ path) (e : Option (Cell width height)) :
    Back (parents.put d e) c path := by
  induction h with
  | root hc =>
    rw [List.mem_singleton] at hd
    exact .root (by rwa [Table.lookup_put, if_neg (Ne.symm hd)])
  | next hc _ ih =>
    rw [List.mem_append, List.mem_singleton, not_or] at hd
    exact .next (by rwa [Table.lookup_put, if_neg (Ne.symm hd.2)]) (ih hd.1)

lemma trail_eq (h : Back parents c path) {steps : ℕ} (hs : path.length ≤ steps + 1)
    (points : List Point) :
    trail parents steps c points = path.map Cell.toPoint ++ points := by
  induction h generalizing steps points with
  | root hc => cases steps <;> simp [trail, hc]
  | next hc hb ih =>
    rw [List.length_append, List.length_singleton] at hs
    cases steps with
    | zero => cases hb <;> simp at hs
    | succ steps => simp [trail, hc, ih (Nat.le_of_succ_le_succ hs)]

end Back

namespace Ends

lemma unique {a b : Plan} (h : Ends moves estimate goal p a) (h' : Ends moves estimate goal p b) :
    a = b := by
  induction h with
  | empty ho => cases h' <;> simp_all
  | stale ho hc _ ih => cases h' <;> simp_all
  | found ho hc hg hb =>
    cases h' with
    | found ho' hc' hg' hb' =>
      obtain ⟨rfl, rfl⟩ := List.cons.inj (ho.symm.trans ho')
      rw [hb.unique hb']
    | _ => simp_all
  | next ho hc hg _ ih => cases h' <;> simp_all

lemma of_dropWhile {a : Plan} (opened : List (Node width height))
    (h : Ends moves estimate goal
      { p with opened := opened.dropWhile fun node => p.closed.lookup node.cell } a) :
    Ends moves estimate goal { p with opened := opened } a := by
  induction opened with
  | nil => exact h
  | cons node rest ih =>
    rw [List.dropWhile_cons] at h
    split at h
    · rename_i hc
      exact .stale rfl hc (ih h)
    · exact h

end Ends

end Progress

end Navigation.Search
