import Storefront.Artifact.Basic
import Storefront.Artifact.Compiler
import Storefront.Artifact.Gate
import Storefront.Builtin.Asset
import Storefront.Builtin.Basic
import Storefront.Builtin.ClientData
import Storefront.Builtin.Region
import Storefront.Builtin.Variable
import Storefront.Bundle
import Storefront.Command.Basic
import Storefront.Command.Error
import Storefront.Command.Line
import Storefront.Command.Usage
import Storefront.Configuration.Basic
import Storefront.Configuration.Decode
import Storefront.Configuration.Error
import Storefront.Decoration
import Storefront.Description
import Storefront.Dialect
import Storefront.Error
import Storefront.Escape
import Storefront.FileSystem.Access
import Storefront.FileSystem.Templates
import Storefront.FileSystem.Tree
import Storefront.Json.Description
import Storefront.Json.Error
import Storefront.Json.Literal
import Storefront.Json.Numeral
import Storefront.Json.Reader
import Storefront.Json.Value
import Storefront.Json.Writer
import Storefront.Main
import Storefront.Mismatch
import Storefront.Number.Binary64
import Storefront.Number.Shortest
import Storefront.Proofs.Artifact.Gate
import Storefront.Proofs.Artifact.Markers
import Storefront.Proofs.Artifact.Spelling
import Storefront.Proofs.Builtin.Asset
import Storefront.Proofs.Builtin.Calls
import Storefront.Proofs.Builtin.ClientData
import Storefront.Proofs.Builtin.Counter
import Storefront.Proofs.Builtin.InlineScript
import Storefront.Proofs.Builtin.Region
import Storefront.Proofs.Builtin.RelativeAsset
import Storefront.Proofs.Builtin.Slots
import Storefront.Proofs.Builtin.Variables
import Storefront.Proofs.Bundle
import Storefront.Proofs.Command.Bundle
import Storefront.Proofs.Command.Loading
import Storefront.Proofs.Command.Precompilation
import Storefront.Proofs.Command.Registration
import Storefront.Proofs.Escape
import Storefront.Proofs.FileSystem.Files
import Storefront.Proofs.FileSystem.TemplateNames
import Storefront.Proofs.FileSystem.Templates
import Storefront.Proofs.FileSystem.Write
import Storefront.Proofs.Json.Literal
import Storefront.Proofs.Json.Numeral
import Storefront.Proofs.Json.Object
import Storefront.Proofs.Json.ScriptEnd
import Storefront.Proofs.Json.Skip
import Storefront.Proofs.Json.Value
import Storefront.Proofs.Number.Text
import Storefront.Proofs.Registry.Agreement
import Storefront.Proofs.Registry.Artifacts
import Storefront.Proofs.Registry.Bindings
import Storefront.Proofs.Registry.Failure
import Storefront.Proofs.Registry.Order
import Storefront.Proofs.Registry.Outcome
import Storefront.Proofs.Registry.Preprocess
import Storefront.Proofs.Registry.Preprocessed
import Storefront.Proofs.Registry.Restore
import Storefront.Proofs.Registry.Version
import Storefront.Proofs.Render.DecoratorFree
import Storefront.Proofs.Render.Show
import Storefront.Proofs.Render.Simulates
import Storefront.Proofs.Render.Simulation
import Storefront.Proofs.Render.Texts
import Storefront.Proofs.Render.Unending
import Storefront.Proofs.Renderer.Registered
import Storefront.Proofs.Renderer.Reserved
import Storefront.Proofs.Renderer.Slots
import Storefront.Proofs.Renderer.Source
import Storefront.Proofs.Renderer.Values
import Storefront.Proofs.Session.Calls
import Storefront.Proofs.Session.ClientData
import Storefront.Proofs.Session.Decoration
import Storefront.Proofs.Session.DecoratorFree
import Storefront.Proofs.Session.Dialects
import Storefront.Proofs.Session.Interchange
import Storefront.Proofs.Session.Order
import Storefront.Proofs.Session.Precedence
import Storefront.Proofs.Session.Run
import Storefront.Proofs.Session.Variables
import Storefront.Proofs.Table
import Storefront.Proofs.Template.Acceptance
import Storefront.Proofs.Template.Compile
import Storefront.Proofs.Template.Decorators
import Storefront.Proofs.Text.Replace
import Storefront.Proofs.Text.Split
import Storefront.Proofs.Translation
import Storefront.Proofs.Unescape
import Storefront.Registry
import Storefront.Render.Failure
import Storefront.Render.Helper
import Storefront.Render.Interpreter
import Storefront.Render.Language
import Storefront.Render.Page
import Storefront.Render.Scope
import Storefront.Render.Show
import Storefront.Renderer
import Storefront.Session
import Storefront.Settings
import Storefront.Table
import Storefront.Template.Basic
import Storefront.Template.Compile
import Storefront.Template.Description
import Storefront.Template.Error
import Storefront.Template.Expression
import Storefront.Template.Scan
import Storefront.Template.Token
import Storefront.Template.Trim
import Storefront.Text.Blank
import Storefront.Text.Position
import Storefront.Text.Printable
import Storefront.Text.Quoted
import Storefront.Text.Replace
import Storefront.Translation
import Storefront.Workbench
import Storefront.Yaml.Cursor
import Storefront.Yaml.Event
import Storefront.Yaml.Node
import Storefront.Yaml.Scalar
import Storefront.Yaml.Schema
import Storefront.Yaml.Token
