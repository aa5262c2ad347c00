import ContentForms.Builder
import ContentForms.CommandLine.Execution
import ContentForms.CommandLine.Grammar
import ContentForms.CommandLine.Invocation
import ContentForms.Conversion
import ContentForms.Declaration
import ContentForms.Extraction
import ContentForms.Failure
import ContentForms.Files
import ContentForms.Generated.Literal
import ContentForms.Generated.Module
import ContentForms.Generation
import ContentForms.Json.Printer
import ContentForms.Json.Reader
import ContentForms.Json.Report
import ContentForms.Json.Value
import ContentForms.Log
import ContentForms.Main
import ContentForms.Metrics
import ContentForms.OrderedMap
import ContentForms.Path
import ContentForms.Proofs.Builder
import ContentForms.Proofs.Builder.Composition
import ContentForms.Proofs.CommandLine.Prediction
import ContentForms.Proofs.CommandLine.PrintedConfig
import ContentForms.Proofs.Extraction.Canonical
import ContentForms.Proofs.Extraction.ChainedSchema
import ContentForms.Proofs.Extraction.Kind
import ContentForms.Proofs.Extraction.Locality
import ContentForms.Proofs.Extraction.Location
import ContentForms.Proofs.Extraction.OrderedReading
import ContentForms.Proofs.Extraction.Refusal
import ContentForms.Proofs.Extraction.Returned
import ContentForms.Proofs.Extraction.Trace
import ContentForms.Proofs.Extraction.Transparency
import ContentForms.Proofs.Files
import ContentForms.Proofs.Generated.Brackets
import ContentForms.Proofs.Generated.Edited
import ContentForms.Proofs.Generated.Lines
import ContentForms.Proofs.Generated.Literal
import ContentForms.Proofs.Generated.Names
import ContentForms.Proofs.Generation
import ContentForms.Proofs.Generation.Input
import ContentForms.Proofs.Json.Denoted
import ContentForms.Proofs.Json.Printed
import ContentForms.Proofs.Metrics
import ContentForms.Proofs.OrderedMap
import ContentForms.Proofs.Schema
import ContentForms.Proofs.Service.Answer
import ContentForms.Proofs.Service.Limit
import ContentForms.Proofs.Session
import ContentForms.Proofs.Session.Accounting
import ContentForms.Proofs.Session.Confinement
import ContentForms.Proofs.Session.Convergence
import ContentForms.Proofs.Session.Surfaces
import ContentForms.Proofs.Syntax.PaddedShape
import ContentForms.Proofs.Syntax.Padding
import ContentForms.Proofs.Syntax.Preorder
import ContentForms.Proofs.Syntax.Shape
import ContentForms.Proofs.Syntax.Walk
import ContentForms.Proofs.Syntax.Written
import ContentForms.Proofs.Text.Pattern
import ContentForms.Proofs.Text.Utf8
import ContentForms.Schema
import ContentForms.Service.Basic
import ContentForms.Service.Body
import ContentForms.Service.Message
import ContentForms.Session
import ContentForms.Settings.Basic
import ContentForms.Settings.EnvFile
import ContentForms.Settings.Value
import ContentForms.Syntax.Chain
import ContentForms.Syntax.Node
import ContentForms.Syntax.Shape
import ContentForms.Syntax.Walk
import ContentForms.Text.Basic
import ContentForms.Text.Capital
import ContentForms.Text.Quoted
import ContentForms.Text.Utf8
import ContentForms.TypeScript.Cursor
import ContentForms.TypeScript.Expression
import ContentForms.TypeScript.Function
import ContentForms.TypeScript.Literal
import ContentForms.TypeScript.Parameter
import ContentForms.TypeScript.Program
import ContentForms.TypeScript.Rule
import ContentForms.TypeScript.Statement
import ContentForms.TypeScript.Token
import ContentForms.TypeScript.TypeExpression
import ContentForms.Workspace
