import UnitRouting.Main
import UnitRouting.Service.Respond
import UnitRouting.Proofs.Outcome
import UnitRouting.Proofs.Rule.Ranking
import UnitRouting.Proofs.Rule.Selection
import UnitRouting.Proofs.Text.Digits
import UnitRouting.Proofs.Json.Leaf
import UnitRouting.Proofs.Json.Written
import UnitRouting.Proofs.Condition.Shape
import UnitRouting.Proofs.Config.Kept
import UnitRouting.Proofs.Config.Reload
import UnitRouting.Proofs.Config.RoundTrip
import UnitRouting.Proofs.Value.Shown
import UnitRouting.Proofs.Rule.Edit
import UnitRouting.Proofs.Repository.Numbering
import UnitRouting.Proofs.Repository.Step
import UnitRouting.Proofs.Config.Loaded
import UnitRouting.Proofs.Repository.Reachable
import UnitRouting.Proofs.Json.Limit
import UnitRouting.Proofs.Service.Handle
import UnitRouting.Proofs.Repository.Printable
import UnitRouting.Proofs.Service.Failure
import UnitRouting.Proofs.Number.Rounding
import UnitRouting.Proofs.Value.Overflow
import UnitRouting.Proofs.Condition.Failure
import UnitRouting.Proofs.Config.Canonical
import UnitRouting.Proofs.Value.Given
import UnitRouting.Proofs.Repository.Settings
import UnitRouting.Proofs.Repository.History
import UnitRouting.Proofs.Pattern.Refusal
import UnitRouting.Proofs.Text.Members
import UnitRouting.Proofs.Condition.Typed
import UnitRouting.Proofs.Condition.Legible
import UnitRouting.Proofs.Rule.Placed
import UnitRouting.Proofs.Repository.FieldEdit
import UnitRouting.Proofs.Rule.Reordering
import UnitRouting.Proofs.Repository.Moves
import UnitRouting.Proofs.Number.Exact
import UnitRouting.Proofs.Number.Numeral
import UnitRouting.Proofs.Service.Status
import UnitRouting.Proofs.Rule.Named
import UnitRouting.Proofs.Repository.Frame
import UnitRouting.Proofs.Repository.Commuting
import UnitRouting.Proofs.Service.Path
import UnitRouting.Proofs.Service.Deletion
import UnitRouting.Proofs.Service.Reachable
import UnitRouting.Proofs.Discovery
import UnitRouting.Proofs.Rule.Trace
import UnitRouting.Proofs.Number.Order
import UnitRouting.Proofs.Condition.Comparison
import UnitRouting.Proofs.Repository.Succession
import UnitRouting.Proofs.Config.Defects
import UnitRouting.Proofs.Config.Identity
import UnitRouting.Proofs.Discovery.Chains
import UnitRouting.Proofs.Json.Grammar
import UnitRouting.Proofs.Json.Lexeme
import UnitRouting.Proofs.Json.Completeness
import UnitRouting.Proofs.Json.Soundness
import UnitRouting.Proofs.Config.Syntax
import UnitRouting.Proofs.Number.Nearest
import UnitRouting.Proofs.Number.Shortest
import UnitRouting.Proofs.Number.Written
import UnitRouting.Proofs.Value.NumberText
import UnitRouting.Proofs.Number.Monotone
import UnitRouting.Proofs.Number.Correct
import UnitRouting.Proofs.Value.Literal
import UnitRouting.Proofs.Number.Closest
import UnitRouting.Proofs.Rule.Negation
import UnitRouting.Proofs.Value.Symmetry
import UnitRouting.Proofs.Value.Spelling
import UnitRouting.Proofs.Value.Equality
import UnitRouting.Proofs.Rule.Relevance
import UnitRouting.Proofs.Rule.Membership
import UnitRouting.Proofs.Rule.Report
