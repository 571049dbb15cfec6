import TableInterfaces.CommandLine.Arguments
import TableInterfaces.CommandLine.Console
import TableInterfaces.CommandLine.Generate
import TableInterfaces.CommandLine.Help
import TableInterfaces.CommandLine.Item
import TableInterfaces.CommandLine.Run
import TableInterfaces.CommandLine.Switch
import TableInterfaces.Comment.Doc
import TableInterfaces.Comment.Template
import TableInterfaces.Config.Check
import TableInterfaces.Config.Entries
import TableInterfaces.Config.File
import TableInterfaces.Config.Layer
import TableInterfaces.Config.Setting
import TableInterfaces.Entity.Basic
import TableInterfaces.Entity.Document
import TableInterfaces.Fault
import TableInterfaces.Generate
import TableInterfaces.Generator.Basic
import TableInterfaces.Generator.Check
import TableInterfaces.Generator.Output
import TableInterfaces.Generator.Run
import TableInterfaces.Generator.Services
import TableInterfaces.Json.Access
import TableInterfaces.Json.Parser
import TableInterfaces.Json.Printer
import TableInterfaces.Json.Token
import TableInterfaces.Json.Value
import TableInterfaces.Jvm.Annotation
import TableInterfaces.Jvm.TypeMap
import TableInterfaces.Loading.Address
import TableInterfaces.Loading.Source
import TableInterfaces.Logging
import TableInterfaces.Main
import TableInterfaces.Naming.Interface
import TableInterfaces.Naming.Keyword
import TableInterfaces.Naming.Sanitizer
import TableInterfaces.Number.Double
import TableInterfaces.Proofs.Comment.Doc
import TableInterfaces.Proofs.Config.Check
import TableInterfaces.Proofs.Config.Kinds
import TableInterfaces.Proofs.Entity.Document
import TableInterfaces.Proofs.Entity.Kinds
import TableInterfaces.Proofs.Generator.Capture
import TableInterfaces.Proofs.Generator.Collision
import TableInterfaces.Proofs.Generator.FileRow
import TableInterfaces.Proofs.Generator.Files
import TableInterfaces.Proofs.Generator.Memory
import TableInterfaces.Proofs.Generator.Modes
import TableInterfaces.Proofs.Generator.Order
import TableInterfaces.Proofs.Generator.Path
import TableInterfaces.Proofs.Generator.Reference
import TableInterfaces.Proofs.Generator.Run
import TableInterfaces.Proofs.Generator.Services
import TableInterfaces.Proofs.Generator.Strict
import TableInterfaces.Proofs.Json.Same
import TableInterfaces.Proofs.Jvm.Annotation
import TableInterfaces.Proofs.Jvm.TypeMap
import TableInterfaces.Proofs.Naming.Interface
import TableInterfaces.Proofs.Naming.Sanitizer
import TableInterfaces.Proofs.Number.Double
import TableInterfaces.Proofs.Result
import TableInterfaces.Proofs.Source.Draft
import TableInterfaces.Proofs.Source.Imports
import TableInterfaces.Proofs.Source.Layout
import TableInterfaces.Proofs.Source.Modes
import TableInterfaces.Proofs.Source.Reference
import TableInterfaces.Proofs.Source.Tidy
import TableInterfaces.Proofs.Source.WrittenName
import TableInterfaces.Proofs.Storage.Path
import TableInterfaces.Proofs.Text.Pieces
import TableInterfaces.Registry
import TableInterfaces.Row
import TableInterfaces.Source.Declaration
import TableInterfaces.Source.Interface
import TableInterfaces.Source.Scope
import TableInterfaces.Source.Sheet
import TableInterfaces.Source.Tidy
import TableInterfaces.Source.TypeName
import TableInterfaces.Sql.Declaration
import TableInterfaces.Sql.Type
import TableInterfaces.Storage.FileTree
import TableInterfaces.Storage.Path
import TableInterfaces.Text.Blank
import TableInterfaces.Text.CodeSet
import TableInterfaces.Text.Compatibility
import TableInterfaces.Text.Encoding
import TableInterfaces.Text.Identifier
import TableInterfaces.Text.Lines
import TableInterfaces.Text.Lowercase
import TableInterfaces.Text.Printable
import TableInterfaces.Text.Quoted
import TableInterfaces.Text.WordChar
import TableInterfaces.Text.Wrap
import TableInterfaces.Proofs.Registry
import TableInterfaces.Proofs.Entity.Loaded
import TableInterfaces.Proofs.Entity.Readable
import TableInterfaces.Proofs.Generate
import TableInterfaces.Proofs.Json.Lexeme
import TableInterfaces.Proofs.Config.Entries
import TableInterfaces.Proofs.Config.Saved
import TableInterfaces.Proofs.Text.Breaks
import TableInterfaces.Proofs.Comment.Block
import TableInterfaces.Proofs.Comment.Reading
import TableInterfaces.Proofs.Storage.Below
import TableInterfaces.Proofs.Generator.Below
import TableInterfaces.Proofs.Source.Code
import TableInterfaces.Proofs.Generator.Declared
import TableInterfaces.Proofs.Source.Commented
import TableInterfaces.Proofs.Generator.Commented
import TableInterfaces.Proofs.Config.Precedence
import TableInterfaces.Proofs.Text.Wrapping
import TableInterfaces.Proofs.Comment.Wrapping
import TableInterfaces.Proofs.Naming.Shape
import TableInterfaces.Proofs.Naming.Accessor
import TableInterfaces.Proofs.Generator.Accessors
import TableInterfaces.Proofs.Text.Ascii
import TableInterfaces.Proofs.Text.Lowercase
import TableInterfaces.Proofs.Sql.Declaration
import TableInterfaces.Proofs.Sql.Name
import TableInterfaces.Proofs.Sql.Type
import TableInterfaces.Proofs.Entity.BareName
import TableInterfaces.Proofs.Entity.Order
import TableInterfaces.Proofs.Naming.Replies
import TableInterfaces.Proofs.Source.Tidied
import TableInterfaces.Proofs.Generator.Tidied
import TableInterfaces.Proofs.Jvm.Dialect
import TableInterfaces.Proofs.Jvm.ExactNumber
import TableInterfaces.Proofs.Jvm.Literal
import TableInterfaces.Proofs.Json.Bounded
import TableInterfaces.Proofs.Loading.Source
