import Mathlib
import Navigation.Proofs.Number.Ranks
import Navigation.Proofs.Replanning.Entries
import Navigation.Search.BestFirst

namespace Navigation

/-- The laws of a total order for a comparison under which only equals compare equal, and `same` tells these. -/
structure TotalOrder {α : Type} (cmp : α → α → Ordering) (same : α → α → Bool) : Prop where
  refl : ∀ a, cmp a a = .eq
  antisymm : ∀ a b, cmp a b ≠ .gt → cmp b a ≠ .gt → a = b
  trans : ∀ a b c, cmp a b ≠ .gt → cmp b c ≠ .gt → cmp a c ≠ .gt
  total : ∀ a b, cmp a b ≠ .gt ∨ cmp b a ≠ .gt
  swap : ∀ a b, cmp b a = (cmp a b).swap
  eq_iff : ∀ a b, cmp a b = .eq ↔ a = b
  same_iff : ∀ a b, same a b = true ↔ cmp a b = .eq

lemma TotalOrder.of_standing {α β : Type} [LinearOrder β] {cmp : α → α → Ordering}
    {same : α → α → Bool} {standing : α → β} (hinj : Function.Injective standing)
    (hcmp : ∀ a b, cmp a b = compare (standing a) (standing b)) (hsame : ∀ a b, same a b = true ↔ a = b) :
    TotalOrder cmp same where
  refl a := by rw [hcmp, compare_eq_iff_eq]
  antisymm a b hab hba := by
    rw [hcmp, compare_le_iff_le] at hab hba
    exact hinj (le_antisymm hab hba)
  trans a b c hab hbc := by
    rw [hcmp, compare_le_iff_le] at hab hbc ⊢
    exact hab.trans hbc
  total a b := by
    rw [hcmp, hcmp, compare_le_iff_le, compare_le_iff_le]
    exact le_total _ _
  swap a b := by
    rw [hcmp, hcmp]
    exact Std.OrientedCmp.eq_swap
  eq_iff a b := by rw [hcmp, compare_eq_iff_eq, hinj.eq_iff]
  same_iff a b := by rw [hsame, hcmp, compare_eq_iff_eq, hinj.eq_iff]

namespace Replanning

variable {width height : ℕ}

namespace Key

variable {a b : Key}

def Numeric (k : Key) : Prop := k.first.Numeric ∧ k.second.Numeric

lemma compare_numeric (ha : a.Numeric) (hb : b.Numeric) : compare a b =
    (compareOfLessAndBEq a.first.toFloat b.first.toFloat).then
      (compareOfLessAndBEq a.second.toFloat b.second.toFloat) := by
  rw [← Priority.compare_numeric ha.1 hb.1, ← Priority.compare_numeric ha.2 hb.2]
  rfl

end Key

end Replanning

namespace Search.Node

variable {width height : ℕ}

def precedence (a b : Node width height) : Ordering :=
  ((compare b.total a.total).then (compare a.cost b.cost)).then (compare b.cell.toPoint a.cell.toPoint)

def same (a b : Node width height) : Bool := a.precedence b == .eq

def standing (a : Node width height) : (ℕ ×ₗ ℕᵒᵈ) ×ₗ ℕ ×ₗ ℕ :=
  toLex (toLex (a.total.rank, OrderDual.toDual a.cost.rank), toLex (a.cell.x, a.cell.y))

lemma standing_injective : Function.Injective (standing : Node width height → _) := by
  rintro ⟨f, g, ⟨⟨x, y⟩, h⟩⟩ ⟨f', g', ⟨⟨x', y'⟩, h'⟩⟩ he
  obtain ⟨hp, hc⟩ := Prod.mk.inj he
  obtain ⟨hf, hg⟩ := Prod.mk.inj hp
  obtain ⟨hx, hy⟩ := Prod.mk.inj hc
  obtain rfl := Priority.rank_injective hf
  obtain rfl := Priority.rank_injective (OrderDual.toDual.injective hg)
  obtain rfl : x = x' := hx
  obtain rfl : y = y' := hy
  rfl

lemma compare_standing (a b : Node width height) : compare a b = compare a.standing b.standing := by
  simp only [Prod.Lex.compare_def, compareLex, compareOn]
  rfl

lemma precedence_standing (a b : Node width height) :
    a.precedence b = compare (OrderDual.toDual a.standing) (OrderDual.toDual b.standing) :=
  compare_standing b a

end Search.Node

open Replanning Search

/-- Priorities are in the order of their words, the negative ones folded. This order and those of the keys, of the
entries and of the nodes are total, and two compare equal only if their bits and their points are the same. Keys
of numbers are in the order of these, first by the one and then by the other. -/
theorem orders_total (width height : ℕ) :
    (∀ p q : Priority, compare p q = compare p.folded q.folded) ∧
    TotalOrder (compare : Priority → Priority → Ordering) (· == ·) ∧
    TotalOrder (compare : Key → Key → Ordering) (· == ·) ∧
    TotalOrder (compare : Entry width height → Entry width height → Ordering) (· == ·) ∧
    TotalOrder (Node.precedence : Node width height → Node width height → Ordering) Node.same ∧
    (∀ a b : Node width height, compare a b = b.precedence a) ∧
    ∀ a b : Key, a.Numeric → b.Numeric → compare a b =
      (compareOfLessAndBEq a.first.toFloat b.first.toFloat).then
        (compareOfLessAndBEq a.second.toFloat b.second.toFloat) := by
  have hnode : Function.Injective fun a : Node width height => OrderDual.toDual a.standing :=
    OrderDual.toDual.injective.comp Node.standing_injective
  refine ⟨Priority.compare_folded, ?_, ?_, ?_, ?_, fun _ _ => rfl, fun _ _ => Key.compare_numeric⟩
  · exact .of_standing Priority.rank_injective (fun _ _ => rfl) fun _ _ => beq_iff_eq
  · exact .of_standing Key.place_injective Key.compare_place fun _ _ => beq_iff_eq
  · exact .of_standing Entry.standing_injective Entry.compare_standing fun _ _ => beq_iff_eq
  · refine .of_standing hnode Node.precedence_standing fun a b => ?_
    rw [Node.same, beq_iff_eq, Node.precedence_standing, compare_eq_iff_eq, hnode.eq_iff]

def endless : Key := ⟨⟨0xc004000000000000⟩, ⟨0x7ff0000000000000⟩⟩

def slight : Key := ⟨⟨0xc004000000000000⟩, ⟨1⟩⟩

theorem orders_total_endless : endless.Numeric ∧ slight.Numeric ∧ compare endless slight = .gt := by
  have hendless : endless.Numeric := ⟨⟨by decide +kernel, by decide⟩, ⟨by decide +kernel, by decide⟩⟩
  have hslight : slight.Numeric := ⟨⟨by decide +kernel, by decide⟩, ⟨by decide +kernel, by decide⟩⟩
  obtain ⟨-, -, -, -, -, -, hnumeric⟩ := orders_total 1 1
  exact ⟨hendless, hslight, (hnumeric endless slight hendless hslight).trans (by decide +kernel)⟩

end Navigation
