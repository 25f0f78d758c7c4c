import TypedClient.Client.Basic
import TypedClient.Client.Build
import TypedClient.CommandLine.Arguments
import TypedClient.CommandLine.Run
import TypedClient.Config
import TypedClient.Core.Exchange
import TypedClient.Core.Files
import TypedClient.Core.Headers
import TypedClient.Core.Page
import TypedClient.Core.Payload
import TypedClient.Core.Promise
import TypedClient.Core.Request
import TypedClient.Core.Settings
import TypedClient.Core.Transfer
import TypedClient.Declaration.Files
import TypedClient.Declaration.Models
import TypedClient.Declaration.Operations
import TypedClient.Declaration.Services
import TypedClient.Declaration.TypeExpr
import TypedClient.Document.Pointer
import TypedClient.Document.Sections
import TypedClient.Document.Server
import TypedClient.Document.Version
import TypedClient.Error
import TypedClient.Files.Path
import TypedClient.Files.Tree
import TypedClient.Json.Numeral
import TypedClient.Json.Quoted
import TypedClient.Json.Read
import TypedClient.Json.Write
import TypedClient.Loading
import TypedClient.Main
import TypedClient.Name.CamelCase
import TypedClient.Name.EnumMember
import TypedClient.Name.EnumRegistry
import TypedClient.Name.Identifier
import TypedClient.Name.Property
import TypedClient.Number.Double
import TypedClient.Number.Floating
import TypedClient.Number.Numeral
import TypedClient.Number.Shortest
import TypedClient.Operation.Basic
import TypedClient.Operation.Content
import TypedClient.Operation.Name
import TypedClient.Operation.Parameters
import TypedClient.Operation.Resolve
import TypedClient.Operation.Responses
import TypedClient.Output
import TypedClient.Proofs.Outcome
import TypedClient.Proofs.TypeScript.File
import TypedClient.Schema.Declared
import TypedClient.Schema.EnumValues
import TypedClient.Schema.Model
import TypedClient.Schema.Resolve
import TypedClient.Schema.TypeUse
import TypedClient.Text.Base64
import TypedClient.Text.Blank
import TypedClient.Text.Case
import TypedClient.Text.CaseMap
import TypedClient.Text.Digit
import TypedClient.Text.Half
import TypedClient.Text.Identifier
import TypedClient.Text.Letter
import TypedClient.Text.Percent
import TypedClient.Text.Printable
import TypedClient.Text.Quoted
import TypedClient.Text.Ranges
import TypedClient.Text.Search
import TypedClient.TypeScript.Equality
import TypedClient.TypeScript.File
import TypedClient.TypeScript.Print
import TypedClient.TypeScript.Render
import TypedClient.TypeScript.Syntax
import TypedClient.Value.Access
import TypedClient.Value.Basic
import TypedClient.Value.Display
import TypedClient.Value.Equality
import TypedClient.Value.Moment
import TypedClient.Yaml.Block
import TypedClient.Yaml.Build
import TypedClient.Yaml.Cursor
import TypedClient.Yaml.Failure
import TypedClient.Yaml.Graph
import TypedClient.Yaml.Lexer
import TypedClient.Yaml.Meaning
import TypedClient.Yaml.Merge
import TypedClient.Yaml.Node
import TypedClient.Yaml.Plain
import TypedClient.Yaml.Quoted
import TypedClient.Yaml.Read
import TypedClient.Yaml.Spelling
import TypedClient.Yaml.Tag
import TypedClient.Yaml.Token
import TypedClient.Proofs.Declaration.Services
import TypedClient.Proofs.Declaration.Files
import TypedClient.Proofs.Distinct
import TypedClient.Proofs.Operation.Places
import TypedClient.Proofs.Operation.Resolve
import TypedClient.Proofs.Operation.Responses
import TypedClient.Proofs.Operation.References
import TypedClient.Proofs.TypeScript.StringLiteral
import TypedClient.Proofs.TypeScript.Token
import TypedClient.Proofs.TypeScript.TypeReader
import TypedClient.Proofs.TypeScript.TypeTokens
import TypedClient.Proofs.TypeScript.TypeRoundTrip
import TypedClient.Proofs.Schema.Form
import TypedClient.Proofs.Schema.Parts
import TypedClient.Proofs.Schema.Tokens
import TypedClient.Proofs.Schema.Naming
import TypedClient.Proofs.Client.EnumNames
import TypedClient.Proofs.Client.Models
import TypedClient.Proofs.Declaration.TypeNames
import TypedClient.Proofs.Schema.NestedEnums
import TypedClient.Proofs.Schema.TypeUse
import TypedClient.Proofs.Text.Blank
import TypedClient.Proofs.Text.Percent
import TypedClient.Proofs.Text.Digit
import TypedClient.Proofs.Document.Pointer
import TypedClient.Proofs.Value.Display
import TypedClient.Proofs.Value.Size
import TypedClient.Proofs.Value.Part
import TypedClient.Proofs.Schema.Shape
import TypedClient.Proofs.Schema.ClosedTypes
import TypedClient.Proofs.Text.Case
import TypedClient.Proofs.Client.OperationNames
import TypedClient.Proofs.Declaration.DistinctTypes
import TypedClient.Proofs.Name.Words
import TypedClient.Proofs.Operation.TypeNames
import TypedClient.Proofs.Text.Search
import TypedClient.Proofs.TypeScript.Comment
import TypedClient.Proofs.TypeScript.TopLevel
import TypedClient.Proofs.TypeScript.Literal
import TypedClient.Proofs.TypeScript.Parentheses
import TypedClient.Proofs.Number.Integer
import TypedClient.Proofs.Value.Literal
import TypedClient.Proofs.TypeScript.ValueReader
import TypedClient.Proofs.TypeScript.ValueRoundTrip
import TypedClient.Proofs.Declaration.TypeExpr
import TypedClient.Proofs.Schema.Nullable
import TypedClient.Proofs.Client.Extension
import TypedClient.Proofs.Declaration.EnumStyles
import TypedClient.Proofs.Declaration.EnumValues
import TypedClient.Proofs.Declaration.Arrays
import TypedClient.Proofs.Client.Grouping
import TypedClient.Proofs.Declaration.Modules
import TypedClient.Proofs.Declaration.MethodParameters
import TypedClient.Proofs.Declaration.SharedProperties
import TypedClient.Proofs.Schema.TypeLists
import TypedClient.Proofs.Number.Interval
import TypedClient.Proofs.Number.Scaled
import TypedClient.Proofs.TypeScript.PropertyKey
import TypedClient.Proofs.Text.Identifier
import TypedClient.Proofs.Name.Identifier
import TypedClient.Proofs.Operation.Names
import TypedClient.Proofs.Operation.ParameterNames
import TypedClient.Proofs.Schema.NestedNames
import TypedClient.Proofs.Client.NestedNames
import TypedClient.Proofs.Number.Text
import TypedClient.Proofs.Declaration.MemberKeys
import TypedClient.Proofs.Declaration.Routes
import TypedClient.Proofs.Schema.EnumLabels
import TypedClient.Proofs.Schema.TypeAtoms
import TypedClient.Proofs.Declaration.ObjectMembers
import TypedClient.Proofs.Schema.IdleAlternatives
import TypedClient.Proofs.Operation.ResponseOrder
import TypedClient.Proofs.Client.StableNames
import TypedClient.Proofs.Schema.References
import TypedClient.Proofs.Schema.VisitedReferences
import TypedClient.Proofs.Name.Sanitized
import TypedClient.Proofs.Text.Ascii
import TypedClient.Proofs.Name.Recased
import TypedClient.Proofs.Name.WireName
import TypedClient.Proofs.Json.Kinds
import TypedClient.Proofs.TypeScript.Printable
import TypedClient.Proofs.TypeScript.Manifest
import TypedClient.Proofs.Declaration.SchemaConstants
