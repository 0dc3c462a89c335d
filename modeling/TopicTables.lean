import TopicTables.Avro.Check
import TopicTables.Avro.ColumnType
import TopicTables.Avro.Decimal
import TopicTables.Avro.Declared
import TopicTables.Avro.Default
import TopicTables.Avro.Fault
import TopicTables.Avro.Form
import TopicTables.Avro.Name
import TopicTables.Avro.Primitive
import TopicTables.Avro.Symbols
import TopicTables.Avro.TableColumns
import TopicTables.Boundary.Basic
import TopicTables.Boundary.Interface
import TopicTables.Boundary.Object
import TopicTables.Boundary.Script
import TopicTables.Catalog.Basic
import TopicTables.Catalog.Batch
import TopicTables.Catalog.Failure
import TopicTables.CommandLine.Arguments
import TopicTables.CommandLine.Command
import TopicTables.CommandLine.Job
import TopicTables.CommandLine.Program
import TopicTables.Config.Basic
import TopicTables.Config.Environment
import TopicTables.Config.Options
import TopicTables.Json.Basic
import TopicTables.Json.Fault
import TopicTables.Json.Literal
import TopicTables.Json.Reader
import TopicTables.Json.Same
import TopicTables.Main
import TopicTables.Number.Binary
import TopicTables.Number.Numeral
import TopicTables.Number.Shortest
import TopicTables.Number.Written
import TopicTables.Pattern.Alternative
import TopicTables.Pattern.Basic
import TopicTables.Pattern.Character
import TopicTables.Pattern.Escape
import TopicTables.Pattern.Extension
import TopicTables.Pattern.Fault
import TopicTables.Pattern.Flags
import TopicTables.Pattern.Group
import TopicTables.Pattern.Marks
import TopicTables.Pattern.Matcher
import TopicTables.Pattern.Progress
import TopicTables.Pattern.Reader
import TopicTables.Pattern.Repetition
import TopicTables.Pattern.Set
import TopicTables.Pattern.Step
import TopicTables.Service.Basic
import TopicTables.Service.Clients
import TopicTables.Service.Cluster
import TopicTables.Service.Descriptor
import TopicTables.Service.Event
import TopicTables.Service.Failure
import TopicTables.Service.Local
import TopicTables.Session.Basic
import TopicTables.Session.Lifecycle
import TopicTables.Snapshot
import TopicTables.Table.Basic
import TopicTables.Table.Builder
import TopicTables.Table.Column
import TopicTables.Table.Path
import TopicTables.Terminal.Console
import TopicTables.Terminal.Display
import TopicTables.Terminal.Picker
import TopicTables.Terminal.Report
import TopicTables.Text.Blank
import TopicTables.Text.Capitals
import TopicTables.Text.CharacterName.Alias
import TopicTables.Text.CharacterName.Ancient
import TopicTables.Text.CharacterName.Asian
import TopicTables.Text.CharacterName.Basic
import TopicTables.Text.CharacterName.EastAsian
import TopicTables.Text.CharacterName.European
import TopicTables.Text.CharacterName.Indic
import TopicTables.Text.CharacterName.Lookup
import TopicTables.Text.CharacterName.Musical
import TopicTables.Text.CharacterName.NearEastern
import TopicTables.Text.CharacterName.Phonetic
import TopicTables.Text.CharacterName.Pictorial
import TopicTables.Text.CharacterName.Playful
import TopicTables.Text.CharacterName.Presentational
import TopicTables.Text.CharacterName.Syllable
import TopicTables.Text.CharacterName.Symbolic
import TopicTables.Text.Digits
import TopicTables.Text.Identifier
import TopicTables.Text.LetterCase
import TopicTables.Text.Letters
import TopicTables.Text.LoneHalf
import TopicTables.Text.Numerals
import TopicTables.Text.Padding
import TopicTables.Text.Printable
import TopicTables.Text.Quoted
import TopicTables.Text.Range
import TopicTables.Proofs.Session.Invariant
import TopicTables.Proofs.Catalog.Run
import TopicTables.Proofs.Catalog.Reference
import TopicTables.Proofs.Avro.Nullability
import TopicTables.Proofs.Avro.FieldColumns
import TopicTables.Proofs.Avro.Walk
import TopicTables.Proofs.Avro.BreakingOff
import TopicTables.Proofs.Avro.Defects
import TopicTables.Proofs.Catalog.Reported
import TopicTables.Proofs.Avro.Resolution
import TopicTables.Proofs.Session.Uses
import TopicTables.Proofs.Session.Ledger
import TopicTables.Proofs.Session.Accounting
import TopicTables.Proofs.Catalog.Cycle
import TopicTables.Proofs.Session.Threads
import TopicTables.Proofs.Session.Interleaving
import TopicTables.Proofs.Catalog.Parts
import TopicTables.Proofs.Session.Reopening
import TopicTables.Proofs.Catalog.Settled
import TopicTables.Proofs.Catalog.Pool
import TopicTables.Proofs.Catalog.Parallel
import TopicTables.Proofs.Session.Sharing
import TopicTables.Proofs.Catalog.Existence
import TopicTables.Proofs.Avro.Marks
import TopicTables.Proofs.Catalog.Confinement
import TopicTables.Proofs.Catalog.Crew
import TopicTables.Proofs.Catalog.Resolving
import TopicTables.Proofs.Catalog.OpenSession
import TopicTables.Proofs.CommandLine.Jobs
import TopicTables.Proofs.CommandLine.Presenting
import TopicTables.Proofs.CommandLine.Invocation
import TopicTables.Proofs.CommandLine.Topics
import TopicTables.Proofs.CommandLine.Batch
import TopicTables.Proofs.CommandLine.Comparison
import TopicTables.Proofs.CommandLine.Refusal
import TopicTables.Proofs.CommandLine.Course
import TopicTables.Proofs.CommandLine.Misuse
import TopicTables.Proofs.CommandLine.Release
import TopicTables.Proofs.CommandLine.Reporting
import TopicTables.Proofs.CommandLine.Agreement
import TopicTables.Proofs.Text.Stripping
import TopicTables.Proofs.Config.Routes
import TopicTables.Proofs.Config.Completeness
import TopicTables.Proofs.Json.Nesting
import TopicTables.Proofs.Json.Room
import TopicTables.Proofs.Avro.WellFormedColumns
import TopicTables.Proofs.Avro.Spelling
import TopicTables.Proofs.Avro.SpelledColumns
import TopicTables.Proofs.Json.Reordering
import TopicTables.Proofs.Avro.MemberOrder
import TopicTables.Proofs.Avro.ReorderedColumns
import TopicTables.Proofs.Config.Sanitizing
import TopicTables.Proofs.Config.Agreement
import TopicTables.Proofs.Config.OptionSets
import TopicTables.Proofs.Boundary.Drawing
import TopicTables.Proofs.Boundary.Objects
import TopicTables.Proofs.Table.FullNames
import TopicTables.Proofs.Table.FirstColumns
import TopicTables.Proofs.CommandLine.Picking
