import TypedRows.Analysis.Context
import TypedRows.Analysis.Field
import TypedRows.Analysis.Nested
import TypedRows.Analysis.Parameter
import TypedRows.Analysis.Shape
import TypedRows.Analysis.TypedStatement
import TypedRows.Annotations.Block
import TypedRows.Annotations.Comment
import TypedRows.Annotations.Error
import TypedRows.Annotations.Extract
import TypedRows.Annotations.Override
import TypedRows.Annotations.Value
import TypedRows.Command.Arguments
import TypedRows.Command.Help
import TypedRows.Command.Run
import TypedRows.Config.Document
import TypedRows.Config.Moment
import TypedRows.Config.Scalar
import TypedRows.Config.Settings
import TypedRows.Config.Value
import TypedRows.Emit.Files
import TypedRows.Emit.Item
import TypedRows.Emit.Lines
import TypedRows.Emit.Migrations
import TypedRows.Emit.Namespace
import TypedRows.Emit.Nesting
import TypedRows.Emit.RawString
import TypedRows.Emit.Row
import TypedRows.Emit.Write
import TypedRows.Error
import TypedRows.Files.Failure
import TypedRows.Files.FileSystem
import TypedRows.Files.FileTree
import TypedRows.Main
import TypedRows.Migration.Checksum
import TypedRows.Migration.FileName
import TypedRows.Migration.MigrationSet
import TypedRows.Naming
import TypedRows.OrderedMap
import TypedRows.Path
import TypedRows.Project
import TypedRows.Project.Load
import TypedRows.Proofs.AdapterLayers
import TypedRows.Proofs.AddedNotNull
import TypedRows.Proofs.AlikeSources
import TypedRows.Proofs.AnnotationChecks
import TypedRows.Proofs.AnnotationLayers
import TypedRows.Proofs.BlockBalance
import TypedRows.Proofs.BlockScanning
import TypedRows.Proofs.BlockSpelling
import TypedRows.Proofs.CatalogOrder
import TypedRows.Proofs.ChunkPrinting
import TypedRows.Proofs.CollectionKeys
import TypedRows.Proofs.ColumnInvariants
import TypedRows.Proofs.CommentStreams
import TypedRows.Proofs.CopiedColumns
import TypedRows.Proofs.CustomAdapters
import TypedRows.Proofs.Draft
import TypedRows.Proofs.EnclosedText
import TypedRows.Proofs.Evaluation
import TypedRows.Proofs.FieldNames
import TypedRows.Proofs.FirstMember
import TypedRows.Proofs.FoldedSources
import TypedRows.Proofs.InheritanceWalk
import TypedRows.Proofs.KeyColumns
import TypedRows.Proofs.LayeringLaws
import TypedRows.Proofs.LexemePrinting
import TypedRows.Proofs.LexemeReading
import TypedRows.Proofs.LexemeSeparation
import TypedRows.Proofs.LimitParameters
import TypedRows.Proofs.Lookahead
import TypedRows.Proofs.MapLookup
import TypedRows.Proofs.MemberNames
import TypedRows.Proofs.MigrationNames
import TypedRows.Proofs.MisnamedMigrations
import TypedRows.Proofs.ModuleNames
import TypedRows.Proofs.NamespaceStructs
import TypedRows.Proofs.NestedPartition
import TypedRows.Proofs.NestedQueries
import TypedRows.Proofs.NestedTypes
import TypedRows.Proofs.NullFlags
import TypedRows.Proofs.Nullability
import TypedRows.Proofs.NumberReading
import TypedRows.Proofs.NumberedMigrations
import TypedRows.Proofs.OperatorReading
import TypedRows.Proofs.Outcome
import TypedRows.Proofs.OuterJoin
import TypedRows.Proofs.ProjectedColumns
import TypedRows.Proofs.QueryReads
import TypedRows.Proofs.RawLiterals
import TypedRows.Proofs.ReferenceNames
import TypedRows.Proofs.RegistrationOrder
import TypedRows.Proofs.RelatedSources
import TypedRows.Proofs.RenamedCatalogs
import TypedRows.Proofs.RenamedParameters
import TypedRows.Proofs.RenamedQueries
import TypedRows.Proofs.RenamedStatements
import TypedRows.Proofs.RenamedVisits
import TypedRows.Proofs.Renaming
import TypedRows.Proofs.Rendering
import TypedRows.Proofs.Rereading
import TypedRows.Proofs.ResultFields
import TypedRows.Proofs.RetractedAnnotations
import TypedRows.Proofs.ReturnedColumns
import TypedRows.Proofs.RootedColumns
import TypedRows.Proofs.RowsOfValues
import TypedRows.Proofs.SchemaObjects
import TypedRows.Proofs.SharedRow
import TypedRows.Proofs.SharedRun
import TypedRows.Proofs.SharedShape
import TypedRows.Proofs.StatementReads
import TypedRows.Proofs.StatementSplitting
import TypedRows.Proofs.StaticFields
import TypedRows.Proofs.TokenReading
import TypedRows.Proofs.TokenText
import TypedRows.Proofs.TokenWeight
import TypedRows.Proofs.Tolerance
import TypedRows.Proofs.Trimming
import TypedRows.Proofs.UnreadAnnotations
import TypedRows.Proofs.UnreadObjects
import TypedRows.Proofs.UnreadStatements
import TypedRows.Proofs.ViewCycles
import TypedRows.Proofs.ViewInlining
import TypedRows.Proofs.ViewOrder
import TypedRows.Proofs.ViewResolution
import TypedRows.Proofs.WildcardColumns
import TypedRows.Proofs.WrittenAnnotations
import TypedRows.Proofs.WrittenBlock
import TypedRows.Proofs.WrittenComment
import TypedRows.Proofs.WrittenFiles
import TypedRows.Report.Json
import TypedRows.Report.Model
import TypedRows.RustType
import TypedRows.Schema.Build
import TypedRows.Schema.Catalog
import TypedRows.Schema.Column
import TypedRows.Schema.Error
import TypedRows.Schema.ExprType
import TypedRows.Schema.Inheritance
import TypedRows.Schema.Reference
import TypedRows.Schema.Resolve
import TypedRows.Schema.Scope
import TypedRows.Schema.Views
import TypedRows.SharedResult
import TypedRows.Sql.Chunk
import TypedRows.Sql.Error
import TypedRows.Sql.Grammar.Command
import TypedRows.Sql.Grammar.Definition
import TypedRows.Sql.Grammar.Expr
import TypedRows.Sql.Grammar.Name
import TypedRows.Sql.Grammar.Parser
import TypedRows.Sql.Grammar.Query
import TypedRows.Sql.Grammar.Reserved
import TypedRows.Sql.Grammar.Session
import TypedRows.Sql.Grammar.Source
import TypedRows.Sql.Grammar.Table
import TypedRows.Sql.Grammar.TypeName
import TypedRows.Sql.Grammar.Write
import TypedRows.Sql.Lexeme
import TypedRows.Sql.Parameter
import TypedRows.Sql.Script
import TypedRows.Sql.Statement
import TypedRows.Sql.Token
import TypedRows.Sql.Token.Scan
import TypedRows.Sql.Tree
import TypedRows.Sql.Tree.Print
import TypedRows.Sql.Tree.Visit
import TypedRows.Text.Blank
import TypedRows.Text.Digits
import TypedRows.Text.Fold
import TypedRows.Text.Letter
import TypedRows.Text.Shown
import TypedRows.Text.Table
import TypedRows.TypeMap
