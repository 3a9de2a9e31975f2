import Stratalog.Algebra.Fold
import Stratalog.Algebra.Join
import Stratalog.Algebra.Operators
import Stratalog.CommandLine.Arguments
import Stratalog.CommandLine.Help
import Stratalog.CommandLine.Outcome
import Stratalog.CommandLine.Switch
import Stratalog.Dependency.Digraph
import Stratalog.Dependency.Graph
import Stratalog.Dependency.Stratification
import Stratalog.Digest.Blake3
import Stratalog.Document.Basic
import Stratalog.Document.Program
import Stratalog.Document.Result
import Stratalog.Document.Settings
import Stratalog.Document.Store
import Stratalog.Document.Value
import Stratalog.Entity
import Stratalog.Evaluation.Expression
import Stratalog.Evaluation.Fixpoint
import Stratalog.Evaluation.Plan
import Stratalog.Evaluation.Run
import Stratalog.Evaluation.Workspace
import Stratalog.Fault
import Stratalog.Input.Error
import Stratalog.Input.FileTree
import Stratalog.Input.Path
import Stratalog.Input.Program
import Stratalog.Input.Settings
import Stratalog.Input.Store
import Stratalog.Json.Basic
import Stratalog.Json.Binary64
import Stratalog.Json.Decode
import Stratalog.Json.Reader
import Stratalog.Json.Writer
import Stratalog.Main
import Stratalog.Pattern.Basic
import Stratalog.Pattern.Category
import Stratalog.Pattern.CharSet
import Stratalog.Pattern.Engine
import Stratalog.Pattern.Parser
import Stratalog.Pattern.Property
import Stratalog.Pattern.Script
import Stratalog.PatternEngine
import Stratalog.Program.Basic
import Stratalog.Program.Expr
import Stratalog.Program.Literal
import Stratalog.Program.Polarity
import Stratalog.Proofs.Dependency.Components
import Stratalog.Proofs.Dependency.Cycles
import Stratalog.Proofs.Dependency.Levels
import Stratalog.Proofs.Dependency.Reach
import Stratalog.Proofs.Dependency.Reading
import Stratalog.Proofs.Dependency.Required
import Stratalog.Proofs.Dependency.Schedule
import Stratalog.Proofs.Dependency.Shared
import Stratalog.Proofs.Dependency.Stratification
import Stratalog.Proofs.Dependency.Walk
import Stratalog.Proofs.Document.Expression
import Stratalog.Proofs.Document.Program
import Stratalog.Proofs.Fixpoint.Advance
import Stratalog.Proofs.Fixpoint.Delta
import Stratalog.Proofs.Fixpoint.Evaluations
import Stratalog.Proofs.Fixpoint.Iteration
import Stratalog.Proofs.Fixpoint.Members
import Stratalog.Proofs.Fixpoint.Round
import Stratalog.Proofs.Fixpoint.Rule
import Stratalog.Proofs.Fixpoint.SemiNaive
import Stratalog.Proofs.Fixpoint.Stratum
import Stratalog.Proofs.Fixpoint.Termination
import Stratalog.Proofs.Json.Lossless
import Stratalog.Proofs.Json.RoundTrip
import Stratalog.Proofs.Outcome
import Stratalog.Proofs.Plan.Arguments
import Stratalog.Proofs.Plan.Body
import Stratalog.Proofs.Plan.Completion
import Stratalog.Proofs.Plan.Evaluations
import Stratalog.Proofs.Plan.Fold
import Stratalog.Proofs.Plan.Placement
import Stratalog.Proofs.Plan.Reads
import Stratalog.Proofs.Plan.Solution
import Stratalog.Proofs.Plan.Steps
import Stratalog.Proofs.Plan.Table
import Stratalog.Proofs.Postcondition
import Stratalog.Proofs.Relation.Algebra
import Stratalog.Proofs.Relation.Coherence
import Stratalog.Proofs.Relation.Groups
import Stratalog.Proofs.Relation.Growth
import Stratalog.Proofs.Relation.Join
import Stratalog.Proofs.Relation.Operators
import Stratalog.Proofs.Relation.Outline
import Stratalog.Proofs.Relation.Sorted
import Stratalog.Proofs.Relation.Spread
import Stratalog.Proofs.Relation.Truncation
import Stratalog.Proofs.Semantics.Body
import Stratalog.Proofs.Semantics.Consequence
import Stratalog.Proofs.Semantics.Exact
import Stratalog.Proofs.Semantics.Existence
import Stratalog.Proofs.Semantics.Expression
import Stratalog.Proofs.Semantics.Fold
import Stratalog.Proofs.Semantics.Group
import Stratalog.Proofs.Semantics.Monotone
import Stratalog.Proofs.Semantics.PerfectModel
import Stratalog.Proofs.Session.Agreement
import Stratalog.Proofs.Session.Answer
import Stratalog.Proofs.Session.Batch
import Stratalog.Proofs.Session.Budgets
import Stratalog.Proofs.Session.Cancellation
import Stratalog.Proofs.Session.Conformity
import Stratalog.Proofs.Session.Evaluations
import Stratalog.Proofs.Session.Grounded
import Stratalog.Proofs.Session.Isolation
import Stratalog.Proofs.Session.Ledger
import Stratalog.Proofs.Session.Materialize
import Stratalog.Proofs.Session.Monotone
import Stratalog.Proofs.Session.Operations
import Stratalog.Proofs.Session.Preparation
import Stratalog.Proofs.Session.Publish
import Stratalog.Proofs.Session.Quiet
import Stratalog.Proofs.Session.Reachable
import Stratalog.Proofs.Session.Relevance
import Stratalog.Proofs.Session.Reordering
import Stratalog.Proofs.Session.Scheduling
import Stratalog.Proofs.Session.Serving
import Stratalog.Proofs.Session.Soundness
import Stratalog.Proofs.Session.Turn
import Stratalog.Proofs.Session.Upkeep
import Stratalog.Proofs.Simulation.Body
import Stratalog.Proofs.Simulation.Correspondence
import Stratalog.Proofs.Simulation.Finished
import Stratalog.Proofs.Simulation.Pairing
import Stratalog.Proofs.Simulation.Pairs
import Stratalog.Proofs.Simulation.Publication
import Stratalog.Proofs.Simulation.Query
import Stratalog.Proofs.Simulation.Round
import Stratalog.Proofs.Simulation.Stratum
import Stratalog.Proofs.Store.Built
import Stratalog.Proofs.Store.Conformity
import Stratalog.Proofs.Store.Fingerprint
import Stratalog.Proofs.Store.Layouts
import Stratalog.Proofs.Typing.Body
import Stratalog.Proofs.Typing.Conformity
import Stratalog.Proofs.Typing.Congruence
import Stratalog.Proofs.Typing.Decision
import Stratalog.Proofs.Typing.Definedness
import Stratalog.Proofs.Typing.Environment
import Stratalog.Proofs.Typing.Faults
import Stratalog.Proofs.Typing.Inference
import Stratalog.Proofs.Typing.Judgement
import Stratalog.Proofs.Typing.Program
import Stratalog.Proofs.Typing.Values
import Stratalog.Proofs.Workspace.Frame
import Stratalog.Proofs.Workspace.Tally
import Stratalog.Relation.Basic
import Stratalog.Relation.Index
import Stratalog.Relation.Summary
import Stratalog.Report.Format
import Stratalog.Report.Summary
import Stratalog.Result.Basic
import Stratalog.Schema
import Stratalog.Session
import Stratalog.Settings
import Stratalog.Store.Basic
import Stratalog.Store.Fingerprint
import Stratalog.Text.CaseTable
import Stratalog.Text.Digits
import Stratalog.Text.Lowercase
import Stratalog.Text.Moment
import Stratalog.Text.Quoted
import Stratalog.Typing.Body
import Stratalog.Typing.Program
import Stratalog.Value
import Stratalog.Yaml.Node
import Stratalog.Yaml.Scalar
import Stratalog.Yaml.Token
import Stratalog.Yaml.TokenStream
import Stratalog.Yaml.Writer
