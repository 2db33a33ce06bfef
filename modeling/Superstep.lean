import Superstep.Binary64.Arithmetic
import Superstep.Binary64.Basic
import Superstep.Binary64.Decimal
import Superstep.Binary64.Layout
import Superstep.Command.Arguments
import Superstep.Command.Execute
import Superstep.Command.FileTree
import Superstep.Command.Help
import Superstep.Config.Environment
import Superstep.Config.Read
import Superstep.Config.Settings
import Superstep.Config.Wire
import Superstep.Executor.Basic
import Superstep.Executor.Bench
import Superstep.Executor.Board
import Superstep.Executor.Conduct
import Superstep.Executor.Create
import Superstep.Executor.Pool
import Superstep.Executor.Retrying
import Superstep.Executor.Schedule
import Superstep.Executor.Script
import Superstep.Executor.StandIn
import Superstep.Expression.Condition
import Superstep.Expression.Error
import Superstep.Expression.Evaluate
import Superstep.Expression.Lexer
import Superstep.Expression.Parser
import Superstep.Expression.Token
import Superstep.Expression.Tree
import Superstep.Failure
import Superstep.Json.Decode
import Superstep.Json.Draft
import Superstep.Json.Literal
import Superstep.Json.Reader
import Superstep.Json.Text
import Superstep.Json.Value
import Superstep.KeyMap
import Superstep.Main
import Superstep.Power
import Superstep.Run.Completion
import Superstep.Run.Engine
import Superstep.Run.Event
import Superstep.Run.Graph
import Superstep.Run.History
import Superstep.Run.Outputs
import Superstep.Run.Route
import Superstep.Run.State
import Superstep.Run.Step
import Superstep.Text.Blank
import Superstep.Text.Case
import Superstep.Text.CaseTable
import Superstep.Text.Digits
import Superstep.Text.Letter
import Superstep.Text.Quoted
import Superstep.Text.Ranges
import Superstep.Text.Search
import Superstep.Text.Terminal
import Superstep.Text.Unprintable
import Superstep.Toml.Moment
import Superstep.Toml.Reader
import Superstep.Toml.Scalar
import Superstep.Toml.Table
import Superstep.Toml.Value
import Superstep.Toml.Writer
import Superstep.Workflow.Basic
import Superstep.Workflow.Validate
import Superstep.Workflow.Wire
import Superstep.Proofs.Compiled
import Superstep.Proofs.Course
import Superstep.Proofs.Digest
import Superstep.Proofs.Runs
import Superstep.Proofs.Confluence
import Superstep.Proofs.Patches
import Superstep.Proofs.Views
import Superstep.Proofs.Merge
import Superstep.Proofs.Closing
import Superstep.Proofs.Acyclic
import Superstep.Proofs.Retries
import Superstep.Proofs.Grammar
import Superstep.Proofs.Reading
import Superstep.Proofs.Soundness
import Superstep.Proofs.Completeness
import Superstep.Proofs.Boards
import Superstep.Proofs.Promises
import Superstep.Proofs.Boundaries
import Superstep.Proofs.Transcripts
import Superstep.Proofs.Turns
import Superstep.Proofs.Activity
import Superstep.Proofs.Coherence
import Superstep.Proofs.Attempts
import Superstep.Proofs.Answers
import Superstep.Proofs.Walks
import Superstep.Proofs.Allowance
import Superstep.Proofs.Refits
import Superstep.Proofs.Mending
import Superstep.Proofs.Lexing
import Superstep.Proofs.Shapes
import Superstep.Proofs.Limits
import Superstep.Proofs.Writing
import Superstep.Proofs.Tilings
import Superstep.Proofs.Notations
import Superstep.Proofs.Lookahead
import Superstep.Proofs.Blame
import Superstep.Proofs.Heights
import Superstep.Proofs.Conditions
import Superstep.Proofs.Searching
import Superstep.Proofs.Traces
import Superstep.Proofs.Names
import Superstep.Proofs.Violations
import Superstep.Proofs.Mirrors
import Superstep.Proofs.Staffing
import Superstep.Proofs.Logs
import Superstep.Proofs.Sessions
import Superstep.Proofs.Registrations
import Superstep.Proofs.Alone
import Superstep.Proofs.Levels
import Superstep.Proofs.Reentry
import Superstep.Proofs.Concurrency
import Superstep.Proofs.Timing
import Superstep.Proofs.DryRuns
import Superstep.Proofs.Values
import Superstep.Proofs.Equality
import Superstep.Proofs.Records
import Superstep.Proofs.RoundTrips
import Superstep.Proofs.Shortcuts
import Superstep.Proofs.Binding
import Superstep.Proofs.Transients
import Superstep.Proofs.Budgets
import Superstep.Proofs.Configured
import Superstep.Proofs.Insertions
import Superstep.Proofs.References
import Superstep.Proofs.Unset
import Superstep.Proofs.Seeding
import Superstep.Proofs.Parts
import Superstep.Proofs.Replays
