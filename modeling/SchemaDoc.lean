import SchemaDoc.Text.Lines
import SchemaDoc.Mapping
import SchemaDoc.Flag
import SchemaDoc.Block.Strip
import SchemaDoc.Source.Lexer
import SchemaDoc.Source.StringLiteral
import SchemaDoc.Source.Tree
import SchemaDoc.Source.Parser
import SchemaDoc.Source.Expression
import SchemaDoc.Source.Statement
import SchemaDoc.Block.Insert
import SchemaDoc.Block.Write
import SchemaDoc.Yaml.Cursor
import SchemaDoc.Yaml.Style
import SchemaDoc.Yaml.Token
import SchemaDoc.Yaml.Node
import SchemaDoc.Yaml.Tag
import SchemaDoc.Yaml.Document
import SchemaDoc.Toml.Scalar
import SchemaDoc.Toml.Document
import SchemaDoc.Settings.Basic
import SchemaDoc.Settings.Environment
import SchemaDoc.Settings.Load
import SchemaDoc.Resolver
import SchemaDoc.Program.Reader
import SchemaDoc.Program.Registry
import SchemaDoc.Program.Execution
import SchemaDoc.Program.Reading
import SchemaDoc.Catalog
import SchemaDoc.PackageSearch
import SchemaDoc.ColumnReader
import SchemaDoc.Detection
import SchemaDoc.Generation.Run
import SchemaDoc.Main
import SchemaDoc.Proofs.Block.Program
import SchemaDoc.Proofs.Block.Several
import SchemaDoc.Proofs.Block.ReadBack
import SchemaDoc.Proofs.Console.Markup
import SchemaDoc.Proofs.Console.Screen
import SchemaDoc.Proofs.Generation.Effects
import SchemaDoc.Proofs.Generation.DryRun
import SchemaDoc.Proofs.Block.Faults
import SchemaDoc.Proofs.CommandLine.Failure
import SchemaDoc.Proofs.CommandLine.Configuration
import SchemaDoc.Proofs.CommandLine.Precedence
import SchemaDoc.Proofs.CommandLine.Status
import SchemaDoc.Proofs.Computation
import SchemaDoc.Proofs.Program.Import
import SchemaDoc.Proofs.Program.Setup
import SchemaDoc.Proofs.Program.Ahead
import SchemaDoc.Proofs.Generation.Visits
import SchemaDoc.Proofs.Generation.Once
import SchemaDoc.Proofs.Generation.Isolation
import SchemaDoc.Proofs.Generation.SourceRoots
import SchemaDoc.Proofs.Log.Setup
import SchemaDoc.Proofs.Block.Target
import SchemaDoc.Proofs.Block.Scan
import SchemaDoc.Proofs.Block.Returns
import SchemaDoc.Proofs.PackageSearch.Resolution
import SchemaDoc.Proofs.PackageSearch.Longest
import SchemaDoc.Proofs.PackageSearch.Dropped
import SchemaDoc.Proofs.Generation.NamedPackages
import SchemaDoc.Proofs.SortOrder
import SchemaDoc.Proofs.Manifest.Declared
import SchemaDoc.Proofs.Manifest.Faults
import SchemaDoc.Proofs.Mapping.Names
import SchemaDoc.Proofs.Mapping.ModuleNames
import SchemaDoc.Proofs.Mapping.SourceRoot
import SchemaDoc.Proofs.PackageSearch.Importable
import SchemaDoc.Proofs.Block.Documentation
import SchemaDoc.Proofs.Columns.Readings
import SchemaDoc.Proofs.Columns.CurrentSchema
import SchemaDoc.Proofs.Settings.Placeholders
import SchemaDoc.Proofs.Program.Relationships
import SchemaDoc.Proofs.TypeFamily
