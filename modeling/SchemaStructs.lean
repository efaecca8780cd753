import SchemaStructs.Catalog.Assembly
import SchemaStructs.Catalog.Diagnostics
import SchemaStructs.Catalog.Modifier
import SchemaStructs.Catalog.QualifiedName
import SchemaStructs.Catalog.Registry
import SchemaStructs.Catalog.Resolution
import SchemaStructs.Catalog.Row
import SchemaStructs.Catalog.Table
import SchemaStructs.Catalog.TypeRef
import SchemaStructs.CommandLine.Arguments
import SchemaStructs.CommandLine.Command
import SchemaStructs.CommandLine.Console
import SchemaStructs.CommandLine.Display
import SchemaStructs.Config.Duration
import SchemaStructs.Config.EnvFile
import SchemaStructs.Config.Error
import SchemaStructs.Config.JsonText
import SchemaStructs.Config.RunOptions
import SchemaStructs.Config.Settings
import SchemaStructs.Connection.Address
import SchemaStructs.Connection.DatabaseKind
import SchemaStructs.Connection.Masking
import SchemaStructs.Connection.Url
import SchemaStructs.Entries
import SchemaStructs.Files.Creation
import SchemaStructs.Files.FileTree
import SchemaStructs.Files.Lookup
import SchemaStructs.Files.Path
import SchemaStructs.Files.Publication
import SchemaStructs.Generate.Artifacts
import SchemaStructs.Generate.DependencyOrder
import SchemaStructs.Generate.Error
import SchemaStructs.Generate.Framework
import SchemaStructs.Generate.Plan
import SchemaStructs.Generate.Source
import SchemaStructs.Generate.Struct
import SchemaStructs.Identifier.Assignment
import SchemaStructs.Identifier.Casing
import SchemaStructs.Identifier.Keyword
import SchemaStructs.Identifier.Naming
import SchemaStructs.Identifier.Singular
import SchemaStructs.Identifier.Words
import SchemaStructs.Log
import SchemaStructs.Main
import SchemaStructs.Mapping.Declaration
import SchemaStructs.Mapping.Scalar
import SchemaStructs.Mapping.TypeMapping
import SchemaStructs.Markup.ColorTable
import SchemaStructs.Markup.Literal
import SchemaStructs.Markup.Nesting
import SchemaStructs.Markup.Style
import SchemaStructs.Markup.Tag
import SchemaStructs.Numeric.Binary64
import SchemaStructs.Numeric.Digits
import SchemaStructs.Numeric.Extended
import SchemaStructs.Numeric.Numeral
import SchemaStructs.Run.Failure
import SchemaStructs.Run.Generation
import SchemaStructs.Rust.Path
import SchemaStructs.Rust.StringLiteral
import SchemaStructs.Rust.TypeExpr
import SchemaStructs.Server.Query
import SchemaStructs.Server.Reader
import SchemaStructs.Server.Script
import SchemaStructs.Sorting
import SchemaStructs.Text.AlphanumericTable
import SchemaStructs.Text.Case
import SchemaStructs.Text.CaseContextTable
import SchemaStructs.Text.CaseTable
import SchemaStructs.Text.Character
import SchemaStructs.Text.Cut
import SchemaStructs.Text.DelimiterTable
import SchemaStructs.Text.DigitTable
import SchemaStructs.Text.PrintableTable
import SchemaStructs.Text.Quoted
import SchemaStructs.Text.Range
import SchemaStructs.Proofs.Entries
import SchemaStructs.Proofs.Identifier.Assignment
import SchemaStructs.Proofs.Sorting
import SchemaStructs.Proofs.Identifier.Characters
import SchemaStructs.Proofs.Mapping.Declarations
import SchemaStructs.Proofs.Mapping.Reachability
import SchemaStructs.Proofs.Mapping.Soundness
import SchemaStructs.Proofs.Generate.DependencyOrder
import SchemaStructs.Proofs.Generate.Plan
import SchemaStructs.Proofs.Generate.Ownership
import SchemaStructs.Proofs.Catalog.PlainNames
import SchemaStructs.Proofs.Generate.ModuleNames
import SchemaStructs.Proofs.Generate.SourceText
import SchemaStructs.Proofs.Generate.NameClosure
import SchemaStructs.Proofs.Generate.Index
import SchemaStructs.Proofs.Generate.SingleOwner
import SchemaStructs.Proofs.Generate.TableFiles
import SchemaStructs.Proofs.Catalog.Assembly
import SchemaStructs.Proofs.Generate.Nullability
import SchemaStructs.Proofs.Catalog.References
import SchemaStructs.Proofs.Catalog.Cycles
import SchemaStructs.Proofs.Catalog.Agreement
import SchemaStructs.Proofs.Mapping.Totality
import SchemaStructs.Proofs.Catalog.RowOrder
import SchemaStructs.Proofs.Generate.RowOrder
import SchemaStructs.Proofs.Identifier.Words
import SchemaStructs.Proofs.Identifier.TypeNames
import SchemaStructs.Proofs.Generate.IndexNames
import SchemaStructs.Proofs.Generate.Collisions
import SchemaStructs.Proofs.Outcome
import SchemaStructs.Proofs.Server.Reading
import SchemaStructs.Proofs.Run.Protocol
import SchemaStructs.Proofs.Files.FileTree
import SchemaStructs.Proofs.Files.Lookup
import SchemaStructs.Proofs.Files.Creation
import SchemaStructs.Proofs.Files.Staging
import SchemaStructs.Proofs.Files.Publication
import SchemaStructs.Proofs.Files.Growth
import SchemaStructs.Proofs.Files.FailedPublication
import SchemaStructs.Proofs.Files.Usable
import SchemaStructs.Proofs.Run.Reports
import SchemaStructs.Proofs.Generate.TableAlone
import SchemaStructs.Proofs.Generate.AppendedTable
import SchemaStructs.Proofs.Text.Lines
import SchemaStructs.Proofs.Generate.Blocks
import SchemaStructs.Proofs.Generate.RowLines
import SchemaStructs.Proofs.Generate.Members
import SchemaStructs.Proofs.Mapping.Fallbacks
import SchemaStructs.Proofs.Mapping.CratePaths
import SchemaStructs.Proofs.Rust.Characters
import SchemaStructs.Proofs.Rust.StringLiterals
import SchemaStructs.Proofs.Generate.Warnings
import SchemaStructs.Proofs.Generate.Buildable
import SchemaStructs.Proofs.Generate.CrateNames
import SchemaStructs.Proofs.Generate.Exclusion
import SchemaStructs.Proofs.Generate.CodeText
import SchemaStructs.Proofs.Generate.ConfinedLines
import SchemaStructs.Proofs.Generate.SingleLines
import SchemaStructs.Proofs.Generate.FrameworkErasure
import SchemaStructs.Proofs.Text.Cutting
import SchemaStructs.Proofs.Connection.PasswordFrame
import SchemaStructs.Proofs.Connection.Disclosure
import SchemaStructs.Proofs.Server.Secrecy
import SchemaStructs.Proofs.Catalog.Registration
import SchemaStructs.Proofs.Mapping.Termination
import SchemaStructs.Proofs.Mapping.ReachableDeclarations
import SchemaStructs.Proofs.Generate.TopologicalOrder
import SchemaStructs.Proofs.Generate.DatabaseNames
import SchemaStructs.Proofs.Text.Runs
import SchemaStructs.Proofs.Text.Rewriting
import SchemaStructs.Proofs.Identifier.WordBorders
import SchemaStructs.Proofs.Identifier.LegalIdentifiers
import SchemaStructs.Proofs.Identifier.Inflections
import SchemaStructs.Proofs.Identifier.Singulars
import SchemaStructs.Proofs.Identifier.SingularNames
import SchemaStructs.Proofs.Identifier.ColumnNames
import SchemaStructs.Proofs.Generate.FieldCollisions
import SchemaStructs.Proofs.Catalog.AssembledTables
import SchemaStructs.Proofs.Catalog.ForeignKeys
import SchemaStructs.Proofs.Generate.ReferenceNotes
import SchemaStructs.Proofs.Catalog.ModifierLayout
import SchemaStructs.Proofs.Rust.Imports
import SchemaStructs.Proofs.Mapping.NullableTypes
import SchemaStructs.Proofs.Identifier.CollisionCheck
import SchemaStructs.Proofs.Connection.BracketedHosts
import SchemaStructs.Proofs.Connection.MaskedParts
import SchemaStructs.Proofs.Server.PasswordParameter
