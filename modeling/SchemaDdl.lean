import SchemaDdl.Artifact.Date
import SchemaDdl.Artifact.Store
import SchemaDdl.Cli.Arguments
import SchemaDdl.Cli.Project
import SchemaDdl.Cli.Run
import SchemaDdl.Compile.Compiler
import SchemaDdl.Compile.ForeignKeys
import SchemaDdl.Compile.JoinTables
import SchemaDdl.Compile.NameSource
import SchemaDdl.Compile.PrimaryKeys
import SchemaDdl.Compile.Resolution
import SchemaDdl.Compile.Script
import SchemaDdl.Config.Basic
import SchemaDdl.Config.Loading
import SchemaDdl.Config.Reading
import SchemaDdl.ConstraintName.ChaCha
import SchemaDdl.ConstraintName.Generator
import SchemaDdl.ConstraintName.Seeded
import SchemaDdl.ConstraintName.Shuffle
import SchemaDdl.Database.Configured
import SchemaDdl.Database.Gateway
import SchemaDdl.Document.Json.Reader
import SchemaDdl.Document.Json.Writer
import SchemaDdl.Document.Node
import SchemaDdl.Document.Source
import SchemaDdl.Document.Yaml.Cursor
import SchemaDdl.Document.Yaml.Folding
import SchemaDdl.Document.Yaml.Merge
import SchemaDdl.Document.Yaml.Plain
import SchemaDdl.Document.Yaml.Scalar
import SchemaDdl.Document.Yaml.Stream
import SchemaDdl.Document.Yaml.Tag
import SchemaDdl.Document.Yaml.Token
import SchemaDdl.Document.Yaml.Tree
import SchemaDdl.Document.Yaml.Typing
import SchemaDdl.Document.Yaml.Writer
import SchemaDdl.Files.Access
import SchemaDdl.Files.Path
import SchemaDdl.Files.Tree
import SchemaDdl.Identifier
import SchemaDdl.Main
import SchemaDdl.Naming
import SchemaDdl.Note
import SchemaDdl.Number.Double
import SchemaDdl.Number.Layout
import SchemaDdl.Number.Shortest
import SchemaDdl.OrderedMap
import SchemaDdl.Schema.Basic
import SchemaDdl.Schema.Error
import SchemaDdl.Schema.Field
import SchemaDdl.Schema.Format
import SchemaDdl.Schema.Loading
import SchemaDdl.Schema.Reading
import SchemaDdl.Schema.Relation
import SchemaDdl.Schema.Settings
import SchemaDdl.Schema.Table
import SchemaDdl.Schema.Validation
import SchemaDdl.Schema.Value
import SchemaDdl.Schema.Writing
import SchemaDdl.Session
import SchemaDdl.Sql.Column
import SchemaDdl.Sql.ColumnType
import SchemaDdl.Sql.Literal
import SchemaDdl.Sql.Statement
import SchemaDdl.Text.Base64
import SchemaDdl.Text.Blank
import SchemaDdl.Text.Lines
import SchemaDdl.Text.Printable
import SchemaDdl.Text.Quoted
import SchemaDdl.Text.Shown
import SchemaDdl.Proofs.ForeignKeys
import SchemaDdl.Proofs.JoinTables
import SchemaDdl.Proofs.Resolution
import SchemaDdl.Proofs.ReferentialClosure
import SchemaDdl.Proofs.ReferenceTypes
import SchemaDdl.Proofs.SymmetricJoin
import SchemaDdl.Proofs.Answers
import SchemaDdl.Proofs.ReadBack
import SchemaDdl.Proofs.ArtifactRoundTrip
import SchemaDdl.Proofs.Recompilation
import SchemaDdl.Proofs.CompiledNames
import SchemaDdl.Proofs.ReservedNames
import SchemaDdl.Proofs.StatementTexts
import SchemaDdl.Proofs.ScriptShape
import SchemaDdl.Proofs.SessionSteps
import SchemaDdl.Proofs.Importing
import SchemaDdl.Proofs.Returning
import SchemaDdl.Proofs.DumpTexts
import SchemaDdl.Proofs.FrozenSession
import SchemaDdl.Proofs.TablePrefixes
import SchemaDdl.Proofs.Declarations
import SchemaDdl.Proofs.JoinSides
import SchemaDdl.Proofs.ValidNames
import SchemaDdl.Proofs.CreatedColumns
import SchemaDdl.Proofs.DerivedColumns
import SchemaDdl.Proofs.KeyColumns
import SchemaDdl.Proofs.ReferencedColumns
import SchemaDdl.Proofs.NulledReferences
import SchemaDdl.Proofs.DrawnNames
import SchemaDdl.Proofs.RewrittenTables
import SchemaDdl.Proofs.TableOrder
import SchemaDdl.Proofs.PrunedRelations
import SchemaDdl.Proofs.SkippedRelations
import SchemaDdl.Proofs.OtherDefaults
import SchemaDdl.Proofs.GatheredRelations
import SchemaDdl.Proofs.DividedTexts
import SchemaDdl.Proofs.IndexLines
import SchemaDdl.Proofs.QuotedNames
import SchemaDdl.Proofs.LiteralTexts
import SchemaDdl.Proofs.ConstraintTexts
import SchemaDdl.Proofs.ConnectionTexts
import SchemaDdl.Proofs.WrittenLengths
import SchemaDdl.Proofs.ValidParts
import SchemaDdl.Proofs.ResolvedPaths
import SchemaDdl.Proofs.NamespaceFiles
import SchemaDdl.Proofs.ShuffledNames
