import Navigation.Word

/-! Bounds on the work of a planner, as multiples of the number of cells of its grid. -/

namespace Navigation

structure Limits where
  searchFactor : Nat
  pathFactor : Nat
  deriving DecidableEq, Repr

inductive LimitsError where
  | noSearch
  | noPath
  deriving DecidableEq, Repr

def LimitsError.message : LimitsError → String
  | .noSearch => "search_iteration_factor must be at least 1"
  | .noPath => "path_step_factor must be at least 1"

namespace Limits

def strict : Limits := ⟨2, 1⟩

def relaxed : Limits := ⟨8, 2⟩

instance : Inhabited Limits := ⟨strict⟩

def scaled (factor width height : Nat) : Nat :=
  Word.saturatingMul (Word.saturatingMul factor width) height

def searchCap (l : Limits) (width height : Nat) : Nat := scaled l.searchFactor width height

def pathCap (l : Limits) (width height : Nat) : Nat := scaled l.pathFactor width height

def validate (l : Limits) : Except LimitsError Unit :=
  if l.searchFactor = 0 then .error .noSearch
  else if l.pathFactor = 0 then .error .noPath
  else .ok ()

end Limits

end Navigation
