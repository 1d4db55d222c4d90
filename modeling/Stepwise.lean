import Stepwise.Main
import Stepwise.Session
import Stepwise.Proofs.Walk.Ceiling
import Stepwise.Proofs.Walk.Validated
import Stepwise.Proofs.Walk.Guarded
import Stepwise.Proofs.Reachability.Acceptance
import Stepwise.Proofs.Walk.Reference
import Stepwise.Proofs.CommandLine.Verdict
import Stepwise.Proofs.Pseudocode.Evaluation
import Stepwise.Proofs.Except
import Stepwise.Proofs.Text.Digits
import Stepwise.Proofs.Step.Name
import Stepwise.Proofs.Walk.Line
import Stepwise.Proofs.Concept.Chain
import Stepwise.Proofs.Concept.Evaluation
import Stepwise.Proofs.Concept.Composition
import Stepwise.Proofs.Concept.Spacing
import Stepwise.Proofs.Plan
import Stepwise.Proofs.Walk.Raised
import Stepwise.Proofs.Reachability.Unbranched
import Stepwise.Proofs.Walk.Unbranched
import Stepwise.Proofs.Json.Container
import Stepwise.Proofs.Json.Numeral
import Stepwise.Proofs.Json.Value
import Stepwise.Proofs.Json.Decoder
import Stepwise.Proofs.Form.Step
import Stepwise.Proofs.CommandLine.RoundTrip
import Stepwise.Proofs.Reachability.Exactness
import Stepwise.Proofs.Reachability.Order
import Stepwise.Proofs.Reachability.Distance
import Stepwise.Proofs.Walk.Series
import Stepwise.Proofs.Pseudocode.Injectivity
import Stepwise.Proofs.Walk.Failing
import Stepwise.Proofs.Walk.Unreached
import Stepwise.Proofs.Workflow.Append
import Stepwise.Proofs.Workflow.Resolution
import Stepwise.Proofs.Reachability.Embedding
import Stepwise.Proofs.Reachability.Rejection
import Stepwise.Proofs.Walk.Appended
import Stepwise.Proofs.Text.Casing
import Stepwise.Proofs.Concept.Classification
import Stepwise.Proofs.Text.Occurrence
import Stepwise.Proofs.Pseudocode.Layout
import Stepwise.Proofs.Context
import Stepwise.Proofs.Json.Order
import Stepwise.Proofs.CommandLine.Entry
import Stepwise.Proofs.Decimal.Shortest
import Stepwise.Proofs.Json.Double
import Stepwise.Proofs.Json.Skip
import Stepwise.Proofs.Json.Record
import Stepwise.Proofs.Form.Member
import Stepwise.Proofs.Form.Layout
import Stepwise.Proofs.Json.Outcome
