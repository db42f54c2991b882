import ContractPress.Artifact
import ContractPress.CommandLine.Argument
import ContractPress.CommandLine.Invocation
import ContractPress.CommandLine.Overview
import ContractPress.CommandLine.Process
import ContractPress.CommandLine.Run
import ContractPress.Config.Basic
import ContractPress.Config.Decoder
import ContractPress.Config.Reader
import ContractPress.Config.Rule
import ContractPress.Contract.DefinitionIndex
import ContractPress.Contract.Model
import ContractPress.Contract.Reader
import ContractPress.Contract.RouteGroup
import ContractPress.Decimal.Layout
import ContractPress.Decimal.Nearest
import ContractPress.Decimal.Numeral
import ContractPress.Decimal.Shortest
import ContractPress.Entries
import ContractPress.Failure
import ContractPress.File.Access
import ContractPress.File.Sink
import ContractPress.File.Tree
import ContractPress.Generator.Basic
import ContractPress.Generator.DebugText
import ContractPress.Generator.Delivery
import ContractPress.Generator.Task
import ContractPress.Helper.Binding
import ContractPress.Helper.Block
import ContractPress.Helper.Comparison
import ContractPress.Helper.Set
import ContractPress.Json
import ContractPress.Json.Printer
import ContractPress.Log.Event
import ContractPress.Log.Filter
import ContractPress.Log.Line
import ContractPress.Log.Settings
import ContractPress.Log.Traced
import ContractPress.Main
import ContractPress.OrderedMap
import ContractPress.Path
import ContractPress.Proofs.Buckets
import ContractPress.Proofs.CommandLine.Inputs
import ContractPress.Proofs.CommandLine.Preview
import ContractPress.Proofs.Config.Options
import ContractPress.Proofs.Contract.Acceptance
import ContractPress.Proofs.Contract.Annotation
import ContractPress.Proofs.Contract.Conversion
import ContractPress.Proofs.Contract.Counting
import ContractPress.Proofs.Contract.Grouping
import ContractPress.Proofs.Contract.Index
import ContractPress.Proofs.Decimal.Nearest
import ContractPress.Proofs.Decimal.Rounding
import ContractPress.Proofs.Entries
import ContractPress.Proofs.File.Containment
import ContractPress.Proofs.File.Contents
import ContractPress.Proofs.File.Delivery
import ContractPress.Proofs.File.DryRun
import ContractPress.Proofs.File.Persistence
import ContractPress.Proofs.File.Places
import ContractPress.Proofs.File.Preservation
import ContractPress.Proofs.File.Repetition
import ContractPress.Proofs.Generator.Delivery
import ContractPress.Proofs.Generator.Emission
import ContractPress.Proofs.Generator.FileNames
import ContractPress.Proofs.Generator.FirstFailure
import ContractPress.Proofs.Generator.History
import ContractPress.Proofs.Generator.Paths
import ContractPress.Proofs.Generator.Preparation
import ContractPress.Proofs.Generator.Reading
import ContractPress.Proofs.Generator.Recorded
import ContractPress.Proofs.Generator.Reordering
import ContractPress.Proofs.Generator.Requests
import ContractPress.Proofs.Helper.Binding
import ContractPress.Proofs.Helper.Branching
import ContractPress.Proofs.Helper.Combination
import ContractPress.Proofs.Helper.Comparison
import ContractPress.Proofs.Helper.Definition
import ContractPress.Proofs.Helper.Extension
import ContractPress.Proofs.Path.Climbing
import ContractPress.Proofs.Path.Segments
import ContractPress.Proofs.Results
import ContractPress.Proofs.Template.Compilation
import ContractPress.Proofs.Template.Lookup
import ContractPress.Proofs.Text.Capitals
import ContractPress.Template.Fault
import ContractPress.Template.Mention
import ContractPress.Template.Parser
import ContractPress.Template.Renderer
import ContractPress.Template.Rendering
import ContractPress.Template.Token
import ContractPress.Template.Tree
import ContractPress.Template.Value
import ContractPress.Template.Value.Arithmetic
import ContractPress.Template.Value.Equality
import ContractPress.Template.Value.Order
import ContractPress.Template.Value.Printer
import ContractPress.Text.Blank
import ContractPress.Text.Capitals
import ContractPress.Text.Case
import ContractPress.Text.CaseTable
import ContractPress.Text.Quoted
import ContractPress.Text.ShapeTable
import ContractPress.Text.Split
import ContractPress.Text.Utf8
import ContractPress.Toml.Moment
import ContractPress.Toml.Number
import ContractPress.Toml.Reader
import ContractPress.Toml.Text
import ContractPress.Toml.Value
import ContractPress.Yaml.Cursor
import ContractPress.Yaml.Fault
import ContractPress.Yaml.Node
import ContractPress.Yaml.Scalar.Block
import ContractPress.Yaml.Scalar.Gap
import ContractPress.Yaml.Scalar.Plain
import ContractPress.Yaml.Scalar.Quoted
import ContractPress.Yaml.Tag
import ContractPress.Yaml.Token
import ContractPress.Yaml.Value
