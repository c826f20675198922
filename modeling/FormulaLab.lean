import FormulaLab.Constant
import FormulaLab.Decimal.Reading
import FormulaLab.Decimal.Text
import FormulaLab.Formula.Render
import FormulaLab.Json.Reader
import FormulaLab.Json.Printer
import FormulaLab.Rulebook.Reduction
import FormulaLab.Rulebook.Standard
import FormulaLab.Expansion.Memory
import FormulaLab.Contraction
import FormulaLab.Dimension.Mapping
import FormulaLab.Consistency.Principles
import FormulaLab.Population.Evolution
import FormulaLab.Engine.Run
import FormulaLab.Settings.Environment
import FormulaLab.Settings.Document
import FormulaLab.Action.Dispatcher
import FormulaLab.Main
import FormulaLab.Proofs.Rulebook.Correspondence
import FormulaLab.Proofs.Engine.Independence
import FormulaLab.Proofs.Rulebook.Termination
import FormulaLab.Proofs.Rulebook.Definedness
import FormulaLab.Proofs.Contraction.Optimality
import FormulaLab.Proofs.Expansion.Transparency
import FormulaLab.Proofs.Expansion.Cancellation
import FormulaLab.Proofs.Population.Lineage
import FormulaLab.Proofs.Action.Defaults
import FormulaLab.Proofs.Population.Aging
import FormulaLab.Proofs.Population.Succession
import FormulaLab.Proofs.Population.Weights
import FormulaLab.Proofs.Consistency.Division
import FormulaLab.Proofs.Rulebook.Erasure
import FormulaLab.Proofs.Construction.Acyclicity
import FormulaLab.Proofs.Construction.Companions
import FormulaLab.Proofs.Scalar.Difference
import FormulaLab.Proofs.Construction.Substitution
import FormulaLab.Proofs.Construction.Rebuilding
import FormulaLab.Proofs.Formula.Locality
import FormulaLab.Proofs.Document.RoundTrip
import FormulaLab.Proofs.Action.Accounts
import FormulaLab.Proofs.Action.Bounds
import FormulaLab.Proofs.Rulebook.Folding
import FormulaLab.Proofs.Rulebook.Visits
import FormulaLab.Proofs.Construction.Shape
import FormulaLab.Proofs.Rulebook.Registrations
import FormulaLab.Proofs.Contraction.Partition
import FormulaLab.Proofs.Population.Elite
import FormulaLab.Proofs.Population.Constraints
import FormulaLab.Proofs.Contraction.Arrangement
import FormulaLab.Proofs.Expansion.Ladders
import FormulaLab.Proofs.Dimension.Flags
import FormulaLab.Proofs.Dimension.FixedPoints
import FormulaLab.Proofs.Consistency.Scan
import FormulaLab.Proofs.Consistency.Dependence
import FormulaLab.Proofs.Engine.Completeness
