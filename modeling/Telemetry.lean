import Telemetry.Decimal.Basic
import Telemetry.Decimal.Fixed
import Telemetry.Decimal.Layout
import Telemetry.Decimal.Numeral
import Telemetry.Decimal.Shortest
import Telemetry.Disk.Basic
import Telemetry.Disk.Path
import Telemetry.Document.Dialect
import Telemetry.Document.Parsed
import Telemetry.Document.Text
import Telemetry.EccentricDisk
import Telemetry.Evaluation
import Telemetry.Json.Token
import Telemetry.Json.Value
import Telemetry.Lint.Explanation
import Telemetry.Lint.Findings
import Telemetry.Lint.Program
import Telemetry.Main
import Telemetry.Orbit.Basic
import Telemetry.Orbit.Elements
import Telemetry.Particle
import Telemetry.Playground
import Telemetry.Preview.Command
import Telemetry.Preview.Program
import Telemetry.Preview.Session
import Telemetry.ProgramOutput
import Telemetry.Proofs.Decimal.Characters
import Telemetry.Proofs.Disk.Creation
import Telemetry.Proofs.Evaluation.Agreement
import Telemetry.Proofs.Evaluation.Delimiters
import Telemetry.Proofs.Evaluation.Denotation
import Telemetry.Proofs.Evaluation.Failure
import Telemetry.Proofs.Evaluation.Lookups
import Telemetry.Proofs.Evaluation.Reduction
import Telemetry.Proofs.Fallible
import Telemetry.Proofs.Lint.Caret
import Telemetry.Proofs.Lint.Errors
import Telemetry.Proofs.Lint.Separators
import Telemetry.Proofs.Lint.Tally
import Telemetry.Proofs.Lint.Usage
import Telemetry.Proofs.Lint.Verdict
import Telemetry.Proofs.Lint.Warnings
import Telemetry.Proofs.Orbit.Angles
import Telemetry.Proofs.Orbit.Checked
import Telemetry.Proofs.Orbit.Conic
import Telemetry.Proofs.Orbit.Derivation
import Telemetry.Proofs.Orbit.Divisors
import Telemetry.Proofs.Orbit.Kepler
import Telemetry.Proofs.Orbit.Plane
import Telemetry.Proofs.Orbit.RoundTrip
import Telemetry.Proofs.Report.Building
import Telemetry.Proofs.Report.Erasure
import Telemetry.Proofs.Report.Interval
import Telemetry.Proofs.Report.Isolation
import Telemetry.Proofs.Report.Run
import Telemetry.Proofs.Report.Schedule
import Telemetry.Proofs.Scalar.Checked
import Telemetry.Proofs.Scalar.Exact
import Telemetry.Proofs.Scalar.Real
import Telemetry.Proofs.Simulation.Barycenter
import Telemetry.Proofs.Simulation.Centering
import Telemetry.Proofs.Simulation.Frame
import Telemetry.Proofs.Simulation.Interaction
import Telemetry.Proofs.Simulation.Order
import Telemetry.Proofs.Simulation.Primary
import Telemetry.Proofs.Simulation.Repetition
import Telemetry.Proofs.Simulation.Validity
import Telemetry.Proofs.Template.Fault
import Telemetry.Proofs.Template.Grammar
import Telemetry.Proofs.Template.Joining
import Telemetry.Proofs.Template.Lexeme
import Telemetry.Proofs.Template.Nesting
import Telemetry.Proofs.Template.RoundTrip
import Telemetry.Proofs.Template.Scanner
import Telemetry.Proofs.Template.Tiling
import Telemetry.Proofs.Template.Tokens
import Telemetry.Proofs.Template.Vocabulary
import Telemetry.Proofs.Template.WellFormed
import Telemetry.Proofs.Vector
import Telemetry.Proofs.Vector.Exact
import Telemetry.Random.Chacha
import Telemetry.Random.Source
import Telemetry.Report.Basic
import Telemetry.Report.Builder
import Telemetry.Report.Error
import Telemetry.Report.Set
import Telemetry.Report.Sink
import Telemetry.Report.Spec
import Telemetry.Ron.Token
import Telemetry.Ron.Value
import Telemetry.Scalar
import Telemetry.Scalar.Binary64
import Telemetry.Simulation
import Telemetry.Simulation.Document
import Telemetry.Snapshot
import Telemetry.Tag
import Telemetry.Template.Basic
import Telemetry.Template.Error
import Telemetry.Template.Lexeme
import Telemetry.Template.Parse
import Telemetry.Template.Text
import Telemetry.Text.Blank
import Telemetry.Text.Column
import Telemetry.Text.Lowercase
import Telemetry.Text.Quoted
import Telemetry.Text.Ranges
import Telemetry.Text.Split
import Telemetry.Text.Unseen
import Telemetry.Text.Utf8
import Telemetry.Vector
