import Settlement.Format.Declaration
import Settlement.Text.Outline
import Settlement.Pattern.Parser
import Settlement.Registry.History
import Settlement.Composition
import Settlement.Orchestrator
import Settlement.Scenario.Session
import Settlement.Scenario.Exercise
import Settlement.Proofs.Action.Events
import Settlement.Proofs.Action.Fault
import Settlement.Proofs.Action.Triple
import Settlement.Proofs.Action.Embedding
import Settlement.Proofs.Action.Mirror
import Settlement.Proofs.Json.Faithful
import Settlement.Proofs.Json.Tree
import Settlement.Proofs.Json.Outcome
import Settlement.Proofs.Json.Scalar
import Settlement.Proofs.Json.Reading
import Settlement.Proofs.Json.Whole
import Settlement.Proofs.Json.Locality
import Settlement.Proofs.Json.Members
import Settlement.Proofs.Json.Objects
import Settlement.Proofs.Format.Roundtrip
import Settlement.Proofs.Format.Rules
import Settlement.Proofs.Format.Objects
import Settlement.Proofs.Registry.Consistency
import Settlement.Proofs.Registry.Entry
import Settlement.Proofs.Registry.Story
import Settlement.Proofs.Registry.Supply
import Settlement.Proofs.Registry.Reloading
import Settlement.Proofs.Selection.Scan
import Settlement.Proofs.Selection.Supertype
import Settlement.Proofs.Selection.Lineage
import Settlement.Proofs.Selection.Lookups
import Settlement.Proofs.Selection.Memory
import Settlement.Proofs.Selection.Agreement
import Settlement.Proofs.Selection.Rule
import Settlement.Proofs.Selection.Steadiness
import Settlement.Proofs.Composition.Resolution
import Settlement.Proofs.Composition.Validity
import Settlement.Proofs.Composition.Foresight
import Settlement.Proofs.Composition.Unresolved
import Settlement.Proofs.Founding.Offers
import Settlement.Proofs.Founding.Call
import Settlement.Proofs.Founding.Plan
import Settlement.Proofs.Founding.Account
import Settlement.Proofs.Founding.Piecewise
import Settlement.Proofs.Founding.Visits
import Settlement.Proofs.Founding.Reports
import Settlement.Proofs.Orchestration.Dispatch
import Settlement.Proofs.Orchestration.Reports
import Settlement.Proofs.Orchestration.History
import Settlement.Proofs.Renaming.Basic
import Settlement.Proofs.Renaming.Registry
import Settlement.Proofs.Renaming.Selection
import Settlement.Proofs.Renaming.Building
import Settlement.Proofs.Renaming.Groups
import Settlement.Proofs.Renaming.Founding
import Settlement.Proofs.Selection.Nesting
import Settlement.Proofs.Selection.Repetition
