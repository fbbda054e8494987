import Mathlib.Data.List.Basic
import Navigation.Proofs.Toml.Integers

/-! A record of small numbers has one bare key and one number to a line. -/

namespace Navigation.Toml

structure Legible (entries : List (Key × ℕ)) : Prop where
  bare : ∀ e ∈ entries, Bare e.1
  small : ∀ e ∈ entries, e.2 < Word.half
  nodup : (entries.map Prod.fst).Nodup

namespace Codec

/-- TOML with signed words for integers. Fields that are asked for may be missing from the lines, and lines may
have others. -/
structure Lawful (codec : Codec) : Prop where
  write_legible {entries : List (Key × ℕ)} :
    Legible entries → codec.write entries = some (entries.flatMap entryLine)
  write_large {entries : List (Key × ℕ)} {e : Key × ℕ} :
    e ∈ entries → Word.half ≤ e.2 → codec.write entries = none
  read_lines {entries : List (Key × ℕ)} (keys : List Key) :
    Legible entries → codec.read keys (entries.flatMap entryLine) = some (keys.map fun key => entries.lookup key)

lemma lookup_integer (entries : List (Key × ℕ)) (key : Key) :
    (entries.map fun e => (e.1, Value.integer e.2)).lookup key =
      (entries.lookup key).map fun n : ℕ => Value.integer n := by
  induction entries with
  | nil => rfl
  | cons e entries ih =>
    rw [List.map_cons, List.lookup_cons, List.lookup_cons, ih]
    cases key == e.1 <;> rfl

lemma naturals?_integers (keys : List Key) (entries : List (Key × ℕ)) :
    (Value.table .header (entries.map fun e => (e.1, .integer e.2))).naturals? keys =
      some (keys.map fun key => entries.lookup key) := by
  have hnatural (n : ℕ) : (Value.integer n).natural? = some n := by
    simp [Value.natural?]
  have hfield (key : Key) :
      ((entries.map fun e => (e.1, Value.integer e.2)).lookup key).mapM Value.natural? =
        pure (entries.lookup key) := by
    rw [lookup_integer]
    cases entries.lookup key with
    | none => rfl
    | some n => simp [hnatural]
  simp only [Value.naturals?, Value.record?, Option.bind_eq_bind, Option.bind_some, List.mapM_map,
    Function.comp_def, hfield]
  exact List.mapM_pure

lemma lawful_standard : standard.Lawful where
  write_legible h := by
    refine if_pos ?_
    simpa using h.small
  write_large he hlarge := by
    refine if_neg ?_
    simp only [List.all_eq_true, decide_eq_true_eq]
    intro hsmall
    exact absurd (hsmall _ he) (not_lt.mpr hlarge)
  read_lines keys h := by
    change (document? _ >>= _) = _
    rw [document?_lines h.bare h.small h.nodup]
    exact naturals?_integers keys _

end Codec

end Navigation.Toml
