import ApiScaffold.Build.Context
import ApiScaffold.Build.Credentials
import ApiScaffold.Build.Operation
import ApiScaffold.Build.Parameters
import ApiScaffold.Build.Path
import ApiScaffold.Build.Sequence
import ApiScaffold.Build.TestCase
import ApiScaffold.CommandLine.Arguments
import ApiScaffold.CommandLine.Command
import ApiScaffold.CommandLine.Generate
import ApiScaffold.CommandLine.Run
import ApiScaffold.CommandLine.Usage
import ApiScaffold.Config.Basic
import ApiScaffold.Config.Decode
import ApiScaffold.Config.Encode
import ApiScaffold.Config.File
import ApiScaffold.Config.Read
import ApiScaffold.Data.Basic
import ApiScaffold.Data.Decode
import ApiScaffold.Data.Outline
import ApiScaffold.Description.Basic
import ApiScaffold.Description.Decode
import ApiScaffold.Description.Encode
import ApiScaffold.Description.File
import ApiScaffold.Description.Lookup
import ApiScaffold.Description.Read
import ApiScaffold.Entries
import ApiScaffold.Expression
import ApiScaffold.Fault
import ApiScaffold.FileName
import ApiScaffold.FilePath
import ApiScaffold.FileTree
import ApiScaffold.Files
import ApiScaffold.Generation
import ApiScaffold.Json.Basic
import ApiScaffold.Json.Number
import ApiScaffold.Json.Printer
import ApiScaffold.Json.Reader
import ApiScaffold.Json.Token
import ApiScaffold.Json.Tree
import ApiScaffold.Literal
import ApiScaffold.LookupTemplate.Basic
import ApiScaffold.LookupTemplate.Engine
import ApiScaffold.LookupTemplate.Expression
import ApiScaffold.LookupTemplate.Parser
import ApiScaffold.Main
import ApiScaffold.Method
import ApiScaffold.Number.Binary64
import ApiScaffold.Number.Decimal
import ApiScaffold.Number.Power
import ApiScaffold.Path.Braces
import ApiScaffold.Path.Template
import ApiScaffold.Proofs.Built
import ApiScaffold.Proofs.CommandLine.Generate
import ApiScaffold.Proofs.Config.File
import ApiScaffold.Proofs.Config.Respelled
import ApiScaffold.Proofs.Config.RoundTrip
import ApiScaffold.Proofs.Credentials
import ApiScaffold.Proofs.Credentials.Places
import ApiScaffold.Proofs.Data.Json
import ApiScaffold.Proofs.Data.Proper
import ApiScaffold.Proofs.Data.Record
import ApiScaffold.Proofs.Data.Written
import ApiScaffold.Proofs.Description.Adoption
import ApiScaffold.Proofs.Description.Declared
import ApiScaffold.Proofs.Description.Lookup
import ApiScaffold.Proofs.Description.Parameter
import ApiScaffold.Proofs.Description.PathItem
import ApiScaffold.Proofs.Description.Proper
import ApiScaffold.Proofs.Description.References
import ApiScaffold.Proofs.Expression
import ApiScaffold.Proofs.FileName
import ApiScaffold.Proofs.FileName.Safe
import ApiScaffold.Proofs.FilePath
import ApiScaffold.Proofs.FileTree
import ApiScaffold.Proofs.Generation.Environment
import ApiScaffold.Proofs.Generation.Fates
import ApiScaffold.Proofs.Generation.FileNames
import ApiScaffold.Proofs.Generation.Results
import ApiScaffold.Proofs.Generation.Shape
import ApiScaffold.Proofs.Imports
import ApiScaffold.Proofs.ImportsUsed
import ApiScaffold.Proofs.Json.Exact
import ApiScaffold.Proofs.Json.Lexeme
import ApiScaffold.Proofs.Json.NumberGrammar
import ApiScaffold.Proofs.Json.NumberText
import ApiScaffold.Proofs.Json.Printed
import ApiScaffold.Proofs.Json.Proper
import ApiScaffold.Proofs.Json.Scan
import ApiScaffold.Proofs.Json.Spelled
import ApiScaffold.Proofs.Literal.Escape
import ApiScaffold.Proofs.Literal.Legal
import ApiScaffold.Proofs.Literal.Reader
import ApiScaffold.Proofs.Literal.RoundTrip
import ApiScaffold.Proofs.Literal.Value
import ApiScaffold.Proofs.LookupTemplate
import ApiScaffold.Proofs.Number.Rounding
import ApiScaffold.Proofs.Number.Shortest
import ApiScaffold.Proofs.Pairing
import ApiScaffold.Proofs.Parameters
import ApiScaffold.Proofs.Path.Braces
import ApiScaffold.Proofs.Path.Canonical
import ApiScaffold.Proofs.Path.Merge
import ApiScaffold.Proofs.Path.Origin
import ApiScaffold.Proofs.Path.Parts
import ApiScaffold.Proofs.Path.Product
import ApiScaffold.Proofs.Path.Recognized
import ApiScaffold.Proofs.Path.Run
import ApiScaffold.Proofs.Path.Tokens
import ApiScaffold.Proofs.Resolution
import ApiScaffold.Proofs.Script.Calls
import ApiScaffold.Proofs.Script.Carried
import ApiScaffold.Proofs.Script.Drawing
import ApiScaffold.Proofs.Script.Heads
import ApiScaffold.Proofs.Script.Literals
import ApiScaffold.Proofs.Script.Ordinary
import ApiScaffold.Proofs.Script.Schema
import ApiScaffold.Proofs.Script.Suite
import ApiScaffold.Proofs.Script.Titles
import ApiScaffold.Proofs.Separation
import ApiScaffold.Proofs.Sequence.Bodies
import ApiScaffold.Proofs.Sequence.Members
import ApiScaffold.Proofs.Sequence.Order
import ApiScaffold.Proofs.Sequence.Run
import ApiScaffold.Proofs.Sequence.Sources
import ApiScaffold.Proofs.Template
import ApiScaffold.Proofs.TestCase
import ApiScaffold.Proofs.TestCase.Faults
import ApiScaffold.Proofs.TestCase.Values
import ApiScaffold.Proofs.Text.Lines
import ApiScaffold.Proofs.Text.Summary
import ApiScaffold.Proofs.Text.Words
import ApiScaffold.Proofs.Yaml.Proper
import ApiScaffold.Renderer
import ApiScaffold.Renderer.Directory
import ApiScaffold.Resolution
import ApiScaffold.Script.Assertion
import ApiScaffold.Script.Line
import ApiScaffold.Script.Request
import ApiScaffold.Script.Supertest
import ApiScaffold.Suite.Basic
import ApiScaffold.Suite.Encode
import ApiScaffold.Template.Basic
import ApiScaffold.Template.BuiltIn
import ApiScaffold.Text.Join
import ApiScaffold.Text.Summary
import ApiScaffold.Text.Words
import ApiScaffold.Toml.Lexeme
import ApiScaffold.Toml.Number
import ApiScaffold.Toml.Reader
import ApiScaffold.Toml.Value
import ApiScaffold.Unicode.Alphanumeric
import ApiScaffold.Unicode.Case
import ApiScaffold.Unicode.CaseMapping
import ApiScaffold.Unicode.Lowercase
import ApiScaffold.Yaml.Cursor
import ApiScaffold.Yaml.Event
import ApiScaffold.Yaml.Node
import ApiScaffold.Yaml.Printer
import ApiScaffold.Yaml.Reader
import ApiScaffold.Yaml.Resolve
import ApiScaffold.Yaml.Scalar
import ApiScaffold.Yaml.Tag
import ApiScaffold.Yaml.Token
import ApiScaffold.Yaml.Writing
