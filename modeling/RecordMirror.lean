import RecordMirror.Build
import RecordMirror.Code.Expr
import RecordMirror.Code.Library
import RecordMirror.Command.Help
import RecordMirror.Command.Invocation
import RecordMirror.Command.Line
import RecordMirror.Command.Run
import RecordMirror.Config
import RecordMirror.Config.File
import RecordMirror.Conversion
import RecordMirror.FileTree
import RecordMirror.Json
import RecordMirror.Json.Decode
import RecordMirror.Json.Reader
import RecordMirror.Json.Writer
import RecordMirror.Main
import RecordMirror.Mapping
import RecordMirror.Mode
import RecordMirror.ModuleText
import RecordMirror.Number.Double
import RecordMirror.Number.LenientInteger
import RecordMirror.Number.Numeral
import RecordMirror.Number.Shortest
import RecordMirror.Observation.Class
import RecordMirror.Observation.Run
import RecordMirror.Observation.Step
import RecordMirror.Observation.World
import RecordMirror.Path
import RecordMirror.Plan
import RecordMirror.Plan.File
import RecordMirror.Plan.Json
import RecordMirror.Project
import RecordMirror.Reading
import RecordMirror.Schema
import RecordMirror.Schema.Fault
import RecordMirror.Schema.FieldReader
import RecordMirror.Schema.Json
import RecordMirror.Schema.Reader
import RecordMirror.Text.Blank
import RecordMirror.Text.Cased
import RecordMirror.Text.DecimalDigit
import RecordMirror.Text.Digits
import RecordMirror.Text.Identifier
import RecordMirror.Text.Letter
import RecordMirror.Text.LowerCase
import RecordMirror.Text.Position
import RecordMirror.Text.Printable
import RecordMirror.Text.Quoted
import RecordMirror.Text.Ranges
import RecordMirror.Text.Sorted
import RecordMirror.Text.Utf8
import RecordMirror.Token
import RecordMirror.Token.Scan
import RecordMirror.TypeExpr
import RecordMirror.TypeExpr.Json
import RecordMirror.TypeExpr.Reader
import RecordMirror.Yaml.Cursor
import RecordMirror.Yaml.Document
import RecordMirror.Yaml.Fault
import RecordMirror.Yaml.Literal
import RecordMirror.Yaml.Node
import RecordMirror.Yaml.Scan
import RecordMirror.Yaml.Spelling
import RecordMirror.Yaml.Tag
import RecordMirror.Yaml.Timestamp
import RecordMirror.Yaml.Token
import RecordMirror.Yaml.Value
import RecordMirror.Proofs.Outcomes
import RecordMirror.Proofs.Token.Lexeme
import RecordMirror.Proofs.Token.Partition
import RecordMirror.Proofs.Token.Places
import RecordMirror.Proofs.Token.Relocation
import RecordMirror.Proofs.Token.Spacing
import RecordMirror.Proofs.Token.Written
import RecordMirror.Proofs.TypeExpr.Canonical
import RecordMirror.Proofs.TypeExpr.Derivation
import RecordMirror.Proofs.TypeExpr.MalformedMap
import RecordMirror.Proofs.TypeExpr.Reading
import RecordMirror.Proofs.Schema.TypeText
import RecordMirror.Proofs.Schema.Capture
import RecordMirror.Proofs.Schema.Derivation
import RecordMirror.Proofs.Schema.Faults
import RecordMirror.Proofs.Schema.Names
import RecordMirror.Proofs.Schema.Pointing
import RecordMirror.Proofs.Schema.Reading
import RecordMirror.Proofs.Schema.DeclaredType
import RecordMirror.Proofs.Schema.Rendering
import RecordMirror.Proofs.Schema.Relocation
import RecordMirror.Proofs.Schema.Composition
import RecordMirror.Proofs.Mode
import RecordMirror.Proofs.Mode.Literal
import RecordMirror.Proofs.Mapping
import RecordMirror.Proofs.Mapping.Modes
import RecordMirror.Proofs.Mapping.Loops
import RecordMirror.Proofs.Observation.Notification
import RecordMirror.Proofs.Observation.Registry
import RecordMirror.Proofs.Observation.Subscription
import RecordMirror.Proofs.Observation.Calls
import RecordMirror.Proofs.Observation.Effects
import RecordMirror.Proofs.Observation.Orderly
import RecordMirror.Proofs.Observation.Moments
import RecordMirror.Proofs.Observation.Frames
import RecordMirror.Proofs.Observation.Rounds
import RecordMirror.Proofs.Observation.Chains
import RecordMirror.Proofs.Observation.Hierarchy
import RecordMirror.Proofs.Text.Line
import RecordMirror.Proofs.Text.Sorted
import RecordMirror.Proofs.Text.Trim
import RecordMirror.Proofs.Text.Utf8
import RecordMirror.Proofs.Json.RoundTrip
import RecordMirror.Proofs.Json.Strings
import RecordMirror.Proofs.FileTree
import RecordMirror.Proofs.Plan.Document
import RecordMirror.Proofs.Plan.Faults
import RecordMirror.Proofs.Plan.Mirrored
import RecordMirror.Proofs.Plan.Names
import RecordMirror.Proofs.Plan.Order
import RecordMirror.Proofs.Plan.References
import RecordMirror.Proofs.Plan.Refusal
import RecordMirror.Proofs.Plan.Permutation
import RecordMirror.Proofs.Plan.Relocation
import RecordMirror.Proofs.Plan.Requests
import RecordMirror.Proofs.Plan.Strict
import RecordMirror.Proofs.Code.Globals
import RecordMirror.Proofs.Code.Lines
import RecordMirror.Proofs.Code.Module
import RecordMirror.Proofs.Code.Names
import RecordMirror.Proofs.Code.Scope
import RecordMirror.Proofs.ModuleText.Capture
import RecordMirror.Proofs.ModuleText.Closed
import RecordMirror.Proofs.ModuleText.Imports
import RecordMirror.Proofs.ModuleText.Label
import RecordMirror.Proofs.ModuleText.Layout
import RecordMirror.Proofs.ModuleText.Legality
import RecordMirror.Proofs.ModuleText.Lines
import RecordMirror.Proofs.ModuleText.Permutation
import RecordMirror.Proofs.ModuleText.ReadBack
import RecordMirror.Proofs.Path
import RecordMirror.Proofs.FileTree.Directories
import RecordMirror.Proofs.Build.Compilation
import RecordMirror.Proofs.Build.Writing
import RecordMirror.Proofs.Project
import RecordMirror.Proofs.Command.Generation
import RecordMirror.Proofs.Command.Agreement
import RecordMirror.Proofs.Command.Checking
import RecordMirror.Proofs.Config
