import Navigation.Main
import Navigation.Matrix.Cholesky
import Navigation.Matrix.Document
import Navigation.Matrix.Elimination
import Navigation.Matrix.SingularValues
import Navigation.Matrix.Text
import Navigation.Proofs.Number.Tally
import Navigation.Proofs.Replanning.Cap
import Navigation.Search.BestFirst
import Navigation.Proofs.Replanning.Records
import Navigation.Proofs.Replanning.Guarded
import Navigation.Proofs.Replanning.Descent
import Navigation.Proofs.Replanning.Price
import Navigation.Proofs.Replanning.Keys
import Navigation.Proofs.Search.Stretch
import Navigation.Proofs.Replanning.Standstill
import Navigation.Proofs.Replanning.Batches
import Navigation.Proofs.Matrix.Pivots
import Navigation.Proofs.Search.Optimal
import Navigation.Proofs.Matrix.Programs
import Navigation.Proofs.Scenario.Limits
import Navigation.Proofs.Grid.Sets
import Navigation.Proofs.Replanning.Effects
import Navigation.Proofs.Grid.Lines
import Navigation.Proofs.Matrix.Factorization
import Navigation.Proofs.Matrix.Solutions
import Navigation.Proofs.Matrix.Inversion
import Navigation.Proofs.Matrix.PositiveDefinite
import Navigation.Proofs.Matrix.PseudoInverse
import Navigation.Proofs.Matrix.Spectra
import Navigation.Proofs.Matrix.Products
import Navigation.Proofs.Matrix.RightHandSides
import Navigation.Proofs.Matrix.Symmetry
import Navigation.Proofs.CommandLine.Points
import Navigation.Proofs.Orders
import Navigation.Proofs.Search.Reversal
