import Navigation.Decimal.Layout
import Navigation.Matrix.Basic

/-! How matrices and matrix errors are shown. -/

namespace Navigation.DenseMatrix

def Error.message : Error Float → String
  | .mismatch operation left right => s!"Dimension mismatch in {operation.name}: {left} vs {right}"
  | .singular column pivot =>
    s!"Matrix is singular (pivot {Decimal.scientific pivot} in column {column})"
  | .notPositiveDefinite row value =>
    s!"Matrix is not positive definite (diagonal term {Decimal.plain value} at row {row})"
  | .entryOutside row col shape => s!"index ({row}, {col}) out of bounds for {shape} matrix"
  | .rowOutside row shape => s!"row {row} out of bounds for {shape} matrix"
  | .columnOutside col shape => s!"column {col} out of bounds for {shape} matrix"
  | .overflow reason => reason.message
  | .unordered => "user-provided comparison function does not correctly implement a total order"
  | .places => "Formatting argument out of range"

def defaultPlaces : Nat := 4

def mostPlaces : Nat := 65535

def display (a : DenseMatrix Float) (places : Nat) : Except (Error Float) String :=
  if mostPlaces < places then .error .places
  else .ok <| String.join <| (List.finRange a.rows).map fun i =>
    "[" ++ String.intercalate ", " ((a.table.row i).map (Decimal.fixed places)) ++ "]\n"

end Navigation.DenseMatrix
