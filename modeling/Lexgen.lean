import Lexgen.Arguments
import Lexgen.Artifact
import Lexgen.Command
import Lexgen.Config
import Lexgen.Corpus
import Lexgen.Definition.Basic
import Lexgen.Definition.Json
import Lexgen.Disk.Basic
import Lexgen.Disk.FileTree
import Lexgen.Document.Basic
import Lexgen.Document.Reader
import Lexgen.Emit.CallFile
import Lexgen.Emit.Field
import Lexgen.Emit.Heredoc
import Lexgen.Emit.Lines
import Lexgen.Emit.Literal
import Lexgen.Emit.Param
import Lexgen.Emit.PrimaryKey
import Lexgen.Emit.RecordFile
import Lexgen.Emit.StructFile
import Lexgen.Emit.SupportFile
import Lexgen.Emit.Template
import Lexgen.Emit.TypeSpec
import Lexgen.Emit.Validation
import Lexgen.Error
import Lexgen.Event
import Lexgen.Generator.Basic
import Lexgen.Generator.Parallel
import Lexgen.Glob.Expand
import Lexgen.Glob.Pattern
import Lexgen.Inputs
import Lexgen.Json.Basic
import Lexgen.Json.Fault
import Lexgen.Json.Printer
import Lexgen.Json.Reader
import Lexgen.Json.Scan
import Lexgen.Json.Skip
import Lexgen.Kdl.Basic
import Lexgen.Kdl.Reader
import Lexgen.Kdl.Space
import Lexgen.Kdl.Strings
import Lexgen.Lexicon.Basic
import Lexgen.Lexicon.Json
import Lexgen.Main
import Lexgen.Names
import Lexgen.Nsid
import Lexgen.Number.Binary64
import Lexgen.Number.Decimal
import Lexgen.Number.Word
import Lexgen.Path
import Lexgen.Schema.Constraint
import Lexgen.Schema.Default
import Lexgen.Schema.Field
import Lexgen.Schema.Kind
import Lexgen.Schema.Native
import Lexgen.Schema.References
import Lexgen.Schema.Storage
import Lexgen.Scope
import Lexgen.Settings
import Lexgen.Text.Blank
import Lexgen.Text.Case
import Lexgen.Text.CaseTable
import Lexgen.Text.CodeRange
import Lexgen.Text.LetterTable
import Lexgen.Text.Pattern
import Lexgen.Text.Snake
import Lexgen.Text.Split
import Lexgen.Text.Utf8
import Lexgen.Text.Visible
import Lexgen.Text.VisibleTable
import Lexgen.Tid.Basic
import Lexgen.Tid.Json
import Lexgen.WorkerPool
import Lexgen.World
import Lexgen.Proofs.Run.PoolCompletion
import Lexgen.Proofs.Run.Actions
import Lexgen.Proofs.Run.ParallelReport
import Lexgen.Proofs.Text.PatternLanguage
import Lexgen.Proofs.Tid.Codec
import Lexgen.Proofs.OrderedMembers
import Lexgen.Proofs.Schema.NestedReferences
import Lexgen.Proofs.Lexicon.RecordedReferences
import Lexgen.Proofs.Corpus.Unresolved
import Lexgen.Proofs.Nsid.Grammar
import Lexgen.Proofs.Nsid.Segments
import Lexgen.Proofs.Schema.Erasure
import Lexgen.Proofs.Tid.Order
import Lexgen.Proofs.Disk.Ways
import Lexgen.Proofs.Disk.Writing
import Lexgen.Proofs.Lexicon.OutputPaths
import Lexgen.Proofs.Disk.Reordering
import Lexgen.Proofs.Run.PoolLedger
import Lexgen.Proofs.Run.ParallelTree
import Lexgen.Proofs.Names.Lookalikes
import Lexgen.Proofs.Lexicon.EmittedModules
import Lexgen.Proofs.Corpus.ReferencedTypes
import Lexgen.Proofs.Run.SequentialReport
import Lexgen.Proofs.Run.Effects
import Lexgen.Proofs.Run.SupportFiles
import Lexgen.Proofs.Emit.StringReading
import Lexgen.Proofs.Emit.HeredocReading
import Lexgen.Proofs.Text.SnakeCase
import Lexgen.Proofs.Emit.ParamNames
import Lexgen.Proofs.Disk.Rewriting
import Lexgen.Proofs.Run.Regeneration
import Lexgen.Proofs.Run.PoolTracking
import Lexgen.Proofs.Disk.Removal
import Lexgen.Proofs.Run.WrittenFiles
import Lexgen.Proofs.Command.CleanRuns
import Lexgen.Proofs.Number.Spelling
import Lexgen.Proofs.Emit.TermReading
import Lexgen.Proofs.Emit.ValidationSteps
import Lexgen.Proofs.Schema.Truncation
import Lexgen.Proofs.Document.OrderedEntries
import Lexgen.Proofs.Definition.FirstWins
import Lexgen.Proofs.Definition.Places
import Lexgen.Proofs.Emit.PrimaryKeys
import Lexgen.Proofs.Emit.CallStubs
import Lexgen.Proofs.Tid.Rejections
import Lexgen.Proofs.Tid.Parts
import Lexgen.Proofs.Names.WordStarts
import Lexgen.Proofs.Names.TableNames
import Lexgen.Proofs.Config.Acceptance
import Lexgen.Proofs.Corpus.CheckedReferences
import Lexgen.Proofs.Error.Offsets
import Lexgen.Proofs.Names.UsableNames
import Lexgen.Proofs.Document.AcceptedDocuments
import Lexgen.Proofs.Lexicon.NameParts
