import RuleBench.Calendar.Date
import RuleBench.Calendar.Duration
import RuleBench.Calendar.Instant
import RuleBench.Call.Correlator
import RuleBench.Call.Host
import RuleBench.Call.Session
import RuleBench.Command
import RuleBench.Command.Arguments
import RuleBench.Command.Bench
import RuleBench.Error
import RuleBench.Expr.Basic
import RuleBench.Expr.Eval
import RuleBench.Expr.Parser
import RuleBench.Expr.Scope
import RuleBench.Folder
import RuleBench.Json.Basic
import RuleBench.Json.Fault
import RuleBench.Json.Form
import RuleBench.Json.Printer
import RuleBench.Json.Scan
import RuleBench.Json.Value
import RuleBench.Main
import RuleBench.Number
import RuleBench.Number.Binary64
import RuleBench.Number.Shortest
import RuleBench.Pattern.Basic
import RuleBench.Pattern.Fault
import RuleBench.Pattern.Meaning
import RuleBench.Pattern.Parser
import RuleBench.Pattern.Property
import RuleBench.Pattern.Property.Age
import RuleBench.Pattern.Property.Binary
import RuleBench.Pattern.Property.Category
import RuleBench.Pattern.Property.Script
import RuleBench.Pattern.Property.ScriptExtension
import RuleBench.Pattern.Property.Word
import RuleBench.Pattern.Tree
import RuleBench.Report
import RuleBench.Round.Engine
import RuleBench.Round.Message
import RuleBench.Round.State
import RuleBench.Round.Unit
import RuleBench.Rule
import RuleBench.Settings
import RuleBench.Snapshot
import RuleBench.Text.Blank
import RuleBench.Text.Casing
import RuleBench.Text.CodeSet
import RuleBench.Text.Folding
import RuleBench.Text.Letter
import RuleBench.Text.Quoted
import RuleBench.Text.Size
import RuleBench.Text.Uuid
import RuleBench.Validation
import RuleBench.Proofs.Call.Delivery
import RuleBench.Proofs.Call.Ending
import RuleBench.Proofs.Call.History
import RuleBench.Proofs.Call.Generation
import RuleBench.Proofs.Call.Rest
import RuleBench.Proofs.Json.Members
import RuleBench.Proofs.Report.Messages
import RuleBench.Proofs.Round.Walk
import RuleBench.Proofs.Expr.Grammar
import RuleBench.Proofs.Expr.Tokens
import RuleBench.Proofs.Expr.Atoms
import RuleBench.Proofs.Expr.Layers
import RuleBench.Proofs.Expr.Soundness
import RuleBench.Proofs.Expr.Chains
import RuleBench.Proofs.Expr.Follow
import RuleBench.Proofs.Expr.Operators
import RuleBench.Proofs.Expr.Primaries
import RuleBench.Proofs.Expr.Parse
import RuleBench.Proofs.Report.Verdict
import RuleBench.Proofs.Call.Service
import RuleBench.Proofs.Call.Settling
import RuleBench.Proofs.Call.Course
import RuleBench.Proofs.Call.Table
import RuleBench.Proofs.Call.Disconnection
import RuleBench.Proofs.Call.Publication
import RuleBench.Proofs.Call.Waiting
import RuleBench.Proofs.Number.Nearest
import RuleBench.Proofs.Round.Strictness
import RuleBench.Proofs.Expr.Comparison
import RuleBench.Proofs.Round.Worker
import RuleBench.Proofs.Json.Doubles
import RuleBench.Proofs.Json.Forms
import RuleBench.Proofs.Json.Records
import RuleBench.Proofs.Round.Wire
import RuleBench.Proofs.Snapshot.Texts
import RuleBench.Proofs.Snapshot.Editing
import RuleBench.Proofs.Command.Revision
import RuleBench.Proofs.Round.Renaming
import RuleBench.Proofs.Report.Sharing
import RuleBench.Proofs.Expr.Mention
import RuleBench.Proofs.Round.Turns
import RuleBench.Proofs.Round.Isolation
import RuleBench.Proofs.Round.Reordering
import RuleBench.Proofs.Report.Defaults
import RuleBench.Proofs.Number.Operations
import RuleBench.Proofs.Number.Decimal
import RuleBench.Proofs.Expr.Arithmetic
import RuleBench.Proofs.Expr.Derivation
import RuleBench.Proofs.Expr.Calls
import RuleBench.Proofs.Expr.Depth
import RuleBench.Proofs.Expr.Precedence
import RuleBench.Proofs.Expr.Numerals
import RuleBench.Proofs.Expr.Rendering
import RuleBench.Proofs.Json.Identity
import RuleBench.Proofs.Expr.Equality
import RuleBench.Proofs.Expr.Order
import RuleBench.Proofs.Expr.Connectives
import RuleBench.Proofs.Snapshot.Moving
import RuleBench.Proofs.Expr.Arity
import RuleBench.Proofs.Expr.Stopping
import RuleBench.Proofs.Calendar.Days
import RuleBench.Proofs.Calendar.Texts
import RuleBench.Proofs.Round.Clock
