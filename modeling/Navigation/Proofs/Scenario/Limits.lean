import Navigation.Proofs.Toml.Codec
import Navigation.Scenario.Document

/-! Limits and their documents: which limits have one, and what is read back from it. -/

namespace Navigation.Limits

open Toml

variable {codec : Codec} {l : Limits}

lemma searchKey_eq : searchKey = ['s', 'e', 'a', 'r', 'c', 'h', '_', 'i', 't', 'e', 'r', 'a', 't', 'i', 'o', 'n',
    '_', 'f', 'a', 'c', 't', 'o', 'r'] := String.toList_ofList

lemma pathKey_eq : pathKey = ['p', 'a', 't', 'h', '_', 's', 't', 'e', 'p', '_', 'f', 'a', 'c', 't', 'o', 'r'] :=
  String.toList_ofList

lemma bare_searchKey : Bare searchKey := by
  rw [searchKey_eq]
  exact ⟨by decide, List.all_eq_true.mp rfl⟩

lemma bare_pathKey : Bare pathKey := by
  rw [pathKey_eq]
  exact ⟨by decide, List.all_eq_true.mp rfl⟩

lemma searchKey_ne_pathKey : searchKey ≠ pathKey := by
  rw [searchKey_eq, pathKey_eq]
  decide

lemma legible_entries (hsearch : l.searchFactor < Word.half) (hpath : l.pathFactor < Word.half) :
    Legible l.entries := by
  refine ⟨?_, ?_, ?_⟩
  · simp [entries, bare_searchKey, bare_pathKey]
  · simp [entries, hsearch, hpath]
  · simp [entries, searchKey_ne_pathKey]

lemma ofFields?_entries (l : Limits) :
    ofFields? ([searchKey, pathKey].map fun key => l.entries.lookup key) = some l := by
  have hne : (pathKey == searchKey) = false := by simp [searchKey_ne_pathKey.symm]
  simp [entries, List.lookup_cons, hne, ofFields?]

lemma document?_eq_none (hcodec : codec.Lawful) (h : Word.half ≤ l.searchFactor ∨ Word.half ≤ l.pathFactor) :
    l.document? codec = none := by
  rw [document?, Option.map_eq_none_iff]
  rcases h with h | h
  · exact hcodec.write_large (e := (searchKey, l.searchFactor)) (by simp [entries]) h
  · exact hcodec.write_large (e := (pathKey, l.pathFactor)) (by simp [entries]) h

lemma document?_eq_some (hcodec : codec.Lawful) (hsearch : l.searchFactor < Word.half)
    (hpath : l.pathFactor < Word.half) :
    l.document? codec = some (String.ofList (l.entries.flatMap entryLine)) := by
  rw [document?, hcodec.write_legible (legible_entries hsearch hpath)]
  rfl

lemma ofDocument_lines (hcodec : codec.Lawful) (hsearch : l.searchFactor < Word.half)
    (hpath : l.pathFactor < Word.half) :
    ofDocument (String.ofList (l.entries.flatMap entryLine)) codec = (do
      l.validate.mapError .limits
      return l) := by
  rw [ofDocument, String.toList_ofList, hcodec.read_lines _ (legible_entries hsearch hpath), Option.bind_some,
    ofFields?_entries]

theorem message_of_validate {error : LimitsError} (h : l.validate = .error error) :
    ∃ key, l.entries.find? (fun e => e.2 == 0) = some (key, 0) ∧
      error.message.toList = key ++ " must be at least 1".toList := by
  rw [validate] at h
  split_ifs at h with hsearch hpath
  · obtain rfl := Except.error.inj h
    exact ⟨searchKey, by simp [entries, hsearch], by simp [LimitsError.message, searchKey_eq]⟩
  · obtain rfl := Except.error.inj h
    exact ⟨pathKey, by simp [entries, hsearch, hpath], by simp [LimitsError.message, pathKey_eq]⟩

/-- Limits have a document if their factors are signed words, and it is read as the limits, unless a factor is
zero: then the first such factor is the error. -/
theorem document_read_back (hcodec : codec.Lawful) (l : Limits) :
    (l.document? codec).map (fun text => ofDocument text codec) =
      if Word.half ≤ l.searchFactor ∨ Word.half ≤ l.pathFactor then none
      else if l.searchFactor = 0 then some (.error (.limits .noSearch))
      else if l.pathFactor = 0 then some (.error (.limits .noPath))
      else some (.ok l) := by
  split_ifs with hlarge hsearch hpath
  · rw [document?_eq_none hcodec hlarge]
    rfl
  all_goals
    rw [not_or, not_le, not_le] at hlarge
    rw [document?_eq_some hcodec hlarge.1 hlarge.2, Option.map_some, ofDocument_lines hcodec hlarge.1 hlarge.2]
  · simp [validate, hsearch]
    rfl
  · simp [validate, hsearch, hpath]
    rfl
  · simp [validate, hsearch, hpath]
    rfl

theorem document_read_back_strict : Codec.standard.Lawful ∧
    strict.document?.map (fun text => ofDocument text) = some (.ok strict) ∧
    Option.map (fun text => ofDocument text) (document? ⟨3, 0⟩) = some (.error (.limits .noPath)) := by
  have hsmall : ¬ (Word.half ≤ 2 ∨ Word.half ≤ 1) ∧ ¬ (Word.half ≤ 3 ∨ Word.half ≤ 0) := by decide
  refine ⟨Codec.lawful_standard, ?_, ?_⟩
  · exact (document_read_back Codec.lawful_standard strict).trans (if_neg hsmall.1)
  · exact (document_read_back Codec.lawful_standard ⟨3, 0⟩).trans (if_neg hsmall.2)

end Navigation.Limits
