import AgentFlow.Agent.Builtin
import AgentFlow.Agent.Definition
import AgentFlow.Agent.Descriptor
import AgentFlow.Agent.Promotion
import AgentFlow.Agent.Registry
import AgentFlow.Agent.Resolver
import AgentFlow.Agent.Store
import AgentFlow.Calendar
import AgentFlow.CommandLine.Action
import AgentFlow.CommandLine.Agents
import AgentFlow.CommandLine.Arguments
import AgentFlow.CommandLine.Run
import AgentFlow.CommandLine.Settings
import AgentFlow.CommandLine.Workflows
import AgentFlow.Config
import AgentFlow.Console.Colour
import AgentFlow.Console.Emoji
import AgentFlow.Console.Emoji.DToJ
import AgentFlow.Console.Emoji.FromS
import AgentFlow.Console.Emoji.KToR
import AgentFlow.Console.Emoji.UpToC
import AgentFlow.Console.Handler
import AgentFlow.Console.Item
import AgentFlow.Console.Layout
import AgentFlow.Console.Literal
import AgentFlow.Console.Literal.Token
import AgentFlow.Console.Markup
import AgentFlow.Console.Style
import AgentFlow.Error.Basic
import AgentFlow.Error.Fault
import AgentFlow.Error.Kind
import AgentFlow.Files.Change
import AgentFlow.Files.Disk
import AgentFlow.Files.Path
import AgentFlow.Files.Work
import AgentFlow.Json.Document
import AgentFlow.Json.Reader
import AgentFlow.Json.Text
import AgentFlow.Log.Format
import AgentFlow.Log.Logged
import AgentFlow.Log.Pattern
import AgentFlow.Log.Record
import AgentFlow.Log.Setup
import AgentFlow.Main
import AgentFlow.Number.Binary64
import AgentFlow.Number.Decimal
import AgentFlow.Number.Integer
import AgentFlow.Number.Shortest
import AgentFlow.Proofs.Agent.Addition
import AgentFlow.Proofs.Agent.Arrival
import AgentFlow.Proofs.Agent.Atomicity
import AgentFlow.Proofs.Agent.Commit
import AgentFlow.Proofs.Agent.Commuting
import AgentFlow.Proofs.Agent.Counting
import AgentFlow.Proofs.Agent.CrashSafety
import AgentFlow.Proofs.Agent.Deeds
import AgentFlow.Proofs.Agent.Description
import AgentFlow.Proofs.Agent.Ending
import AgentFlow.Proofs.Agent.Guards
import AgentFlow.Proofs.Agent.Head
import AgentFlow.Proofs.Agent.Malformed
import AgentFlow.Proofs.Agent.Operations
import AgentFlow.Proofs.Agent.Overlong
import AgentFlow.Proofs.Agent.Overwriting
import AgentFlow.Proofs.Agent.Persistence
import AgentFlow.Proofs.Agent.Progress
import AgentFlow.Proofs.Agent.Promotion
import AgentFlow.Proofs.Agent.PromotionOutcome
import AgentFlow.Proofs.Agent.Registry
import AgentFlow.Proofs.Agent.Replay
import AgentFlow.Proofs.Agent.Resolution
import AgentFlow.Proofs.Agent.Roster
import AgentFlow.Proofs.Agent.Shadowing
import AgentFlow.Proofs.Agent.Surfacing
import AgentFlow.Proofs.Agent.Tidy
import AgentFlow.Proofs.Agent.Uninterrupted
import AgentFlow.Proofs.Agent.Usage
import AgentFlow.Proofs.CommandLine.Action
import AgentFlow.Proofs.CommandLine.Checking
import AgentFlow.Proofs.CommandLine.Configuring
import AgentFlow.Proofs.CommandLine.Listing
import AgentFlow.Proofs.CommandLine.Showing
import AgentFlow.Proofs.Config.Layers
import AgentFlow.Proofs.Config.Loading
import AgentFlow.Proofs.Config.Refusal
import AgentFlow.Proofs.Console.Escaped
import AgentFlow.Proofs.Console.Markup
import AgentFlow.Proofs.Files.Asking
import AgentFlow.Proofs.Files.Atomicity
import AgentFlow.Proofs.Files.Bounded
import AgentFlow.Proofs.Files.Change
import AgentFlow.Proofs.Files.Completion
import AgentFlow.Proofs.Files.Endings
import AgentFlow.Proofs.Files.Homes
import AgentFlow.Proofs.Files.Moving
import AgentFlow.Proofs.Files.Outcome
import AgentFlow.Proofs.Files.Path
import AgentFlow.Proofs.Files.Progress
import AgentFlow.Proofs.Files.Recording
import AgentFlow.Proofs.Files.Refusal
import AgentFlow.Proofs.Files.Work
import AgentFlow.Proofs.Files.Writing
import AgentFlow.Proofs.Json.Document
import AgentFlow.Proofs.Json.Moderate
import AgentFlow.Proofs.Number.Magnitude
import AgentFlow.Proofs.Result
import AgentFlow.Proofs.Text.Blank
import AgentFlow.Proofs.Text.LineEnds
import AgentFlow.Proofs.Text.Lines
import AgentFlow.Proofs.Text.QuotedBody
import AgentFlow.Proofs.Toml.Keyed
import AgentFlow.Proofs.Toml.Refusal
import AgentFlow.Proofs.Value.Display
import AgentFlow.Proofs.Value.Table
import AgentFlow.Proofs.Workflow.CallForm
import AgentFlow.Proofs.Workflow.Composition
import AgentFlow.Proofs.Workflow.Decomposition
import AgentFlow.Proofs.Workflow.DefaultModel
import AgentFlow.Proofs.Workflow.DefinitionGrammar
import AgentFlow.Proofs.Workflow.Diagnosis
import AgentFlow.Proofs.Workflow.Execution
import AgentFlow.Proofs.Workflow.Expansion
import AgentFlow.Proofs.Workflow.Faults
import AgentFlow.Proofs.Workflow.FirstFault
import AgentFlow.Proofs.Workflow.FirstOccurrence
import AgentFlow.Proofs.Workflow.Interpolation
import AgentFlow.Proofs.Workflow.Invocation
import AgentFlow.Proofs.Workflow.InvocationGrammar
import AgentFlow.Proofs.Workflow.Layout
import AgentFlow.Proofs.Workflow.Macro
import AgentFlow.Proofs.Workflow.MacroPath
import AgentFlow.Proofs.Workflow.Openness
import AgentFlow.Proofs.Workflow.Partition
import AgentFlow.Proofs.Workflow.PlainSource
import AgentFlow.Proofs.Workflow.Reach
import AgentFlow.Proofs.Workflow.Recompilation
import AgentFlow.Proofs.Workflow.Scope
import AgentFlow.Proofs.Workflow.Statement
import AgentFlow.Proofs.Workflow.StepFaults
import AgentFlow.Proofs.Workflow.Stopping
import AgentFlow.Proofs.Workflow.Tiers
import AgentFlow.Proofs.Workflow.Trail
import AgentFlow.Proofs.Workflow.Unheard
import AgentFlow.Proofs.Workflow.WrittenForm
import AgentFlow.Text.Blank
import AgentFlow.Text.Digit
import AgentFlow.Text.Identifier
import AgentFlow.Text.Lines
import AgentFlow.Text.Lower
import AgentFlow.Text.Printable
import AgentFlow.Text.Quoted
import AgentFlow.Text.QuotedBody
import AgentFlow.Text.Span
import AgentFlow.Text.Utf16
import AgentFlow.Text.Utf8
import AgentFlow.Text.Word
import AgentFlow.Toml.Reader
import AgentFlow.Toml.Scalar
import AgentFlow.Toml.Text
import AgentFlow.Value.Basic
import AgentFlow.Value.Display
import AgentFlow.Value.Fault
import AgentFlow.Value.SetOrder
import AgentFlow.Workflow.CallForm
import AgentFlow.Workflow.Expanded
import AgentFlow.Workflow.Invocation
import AgentFlow.Workflow.Macro
import AgentFlow.Workflow.MacroTable
import AgentFlow.Workflow.Placeholder
import AgentFlow.Workflow.Program
import AgentFlow.Workflow.Run
import AgentFlow.Workflow.Statement
import AgentFlow.Workflow.Variables
import AgentFlow.Yaml.Block
import AgentFlow.Yaml.Cursor
import AgentFlow.Yaml.Document
import AgentFlow.Yaml.Graph
import AgentFlow.Yaml.Implicit
import AgentFlow.Yaml.Merge
import AgentFlow.Yaml.Node
import AgentFlow.Yaml.Quoted
import AgentFlow.Yaml.Reader
import AgentFlow.Yaml.Scalar
import AgentFlow.Yaml.Token
import AgentFlow.Yaml.TokenStream
