import LineAtlas.Binary64.Basic
import LineAtlas.Binary64.Literal
import LineAtlas.Binary64.Shortest
import LineAtlas.CharMap.Basic
import LineAtlas.CharMap.Literal
import LineAtlas.CommandLine.Answers
import LineAtlas.CommandLine.Grammar
import LineAtlas.CommandLine.Reader
import LineAtlas.CommandLine.Request
import LineAtlas.Console
import LineAtlas.Environment
import LineAtlas.Event
import LineAtlas.Fault
import LineAtlas.Files.Error
import LineAtlas.Files.Path
import LineAtlas.Files.Tree
import LineAtlas.Identifier
import LineAtlas.Json.Fault
import LineAtlas.Json.Number
import LineAtlas.Json.Printer
import LineAtlas.Json.Reader
import LineAtlas.Json.Value
import LineAtlas.LineMap.Basic
import LineAtlas.LineMap.Flaw
import LineAtlas.LineMap.Index
import LineAtlas.LineMap.Reader
import LineAtlas.Main
import LineAtlas.Palette
import LineAtlas.Prompt.Command
import LineAtlas.Prompt.Executor
import LineAtlas.Prompt.History
import LineAtlas.Prompt.Session
import LineAtlas.Provider
import LineAtlas.Record
import LineAtlas.Script.Compiled
import LineAtlas.Script.Mapper
import LineAtlas.Script.Modules
import LineAtlas.Script.Registry
import LineAtlas.Settings.Basic
import LineAtlas.Settings.Store
import LineAtlas.Settings.Text
import LineAtlas.Text.Blank
import LineAtlas.Text.Cluster
import LineAtlas.Text.Lines
import LineAtlas.Text.Lowercase
import LineAtlas.Text.Numeral
import LineAtlas.Text.Quoted
import LineAtlas.Text.Table.Basic
import LineAtlas.Text.Table.CaseIgnorable
import LineAtlas.Text.Table.Cased
import LineAtlas.Text.Table.Extending
import LineAtlas.Text.Table.Lowering
import LineAtlas.Text.Table.Pictographic
import LineAtlas.Text.Table.Spacing
import LineAtlas.Text.Table.Unprintable
import LineAtlas.Text.Words
import LineAtlas.Toml.Document
import LineAtlas.Toml.Reader
import LineAtlas.Toml.Scalar
import LineAtlas.Toml.Text
import LineAtlas.Toml.Value
import LineAtlas.Toml.Writer
import LineAtlas.Proofs.FirstMention
import LineAtlas.Proofs.Index.Settled
import LineAtlas.Proofs.Index.Entries
import LineAtlas.Proofs.Index.Question
import LineAtlas.Proofs.Prompt.Conversation
import LineAtlas.Proofs.CharMap.Resolve
import LineAtlas.Proofs.Index.Agreement
import LineAtlas.Proofs.Index.Eager
import LineAtlas.Proofs.Index.Refusals
import LineAtlas.Proofs.Json.Kinds
import LineAtlas.Proofs.LineMap.Grammar
import LineAtlas.Proofs.Index.Footprint
import LineAtlas.Proofs.Index.Isolation
import LineAtlas.Proofs.Script.Modules
import LineAtlas.Proofs.Text.Pieces
import LineAtlas.Proofs.Text.Numeral
import LineAtlas.Proofs.CharMap.Written
import LineAtlas.Proofs.Json.Reading
import LineAtlas.Proofs.LineMap.Written
import LineAtlas.Proofs.Settings.Blocks
import LineAtlas.Proofs.Toml.Written
import LineAtlas.Proofs.Toml.Lines
import LineAtlas.Proofs.Script.Compiled
import LineAtlas.Proofs.Settings.Written
import LineAtlas.Proofs.Files.Tree
import LineAtlas.Proofs.Settings.Store
import LineAtlas.Proofs.CommandLine.Saving
import LineAtlas.Proofs.Text.LineEnds
import LineAtlas.Proofs.LineMap.Layout
import LineAtlas.Proofs.CommandLine.Frame
import LineAtlas.Proofs.CommandLine.Persistence
import LineAtlas.Proofs.CommandLine.StoredMap
import LineAtlas.Proofs.Settings.Edits
import LineAtlas.Proofs.CharMap.Spelled
import LineAtlas.Proofs.Binary64.Nearest
import LineAtlas.Proofs.Binary64.DecimalText
import LineAtlas.Proofs.CharMap.Numbers
import LineAtlas.Proofs.CharMap.Dense
import LineAtlas.Proofs.Index.Recoded
import LineAtlas.Proofs.LineMap.Faults
import LineAtlas.Proofs.LineMap.Room
import LineAtlas.Proofs.Script.Mapper
import LineAtlas.Proofs.Script.Registry
import LineAtlas.Proofs.Script.Consistency
import LineAtlas.Proofs.Script.MappedSource
import LineAtlas.Proofs.Script.OneScript
import LineAtlas.Proofs.CommandLine.Reverse
import LineAtlas.Proofs.CommandLine.Lookup
import LineAtlas.Proofs.Text.Words
import LineAtlas.Proofs.Text.Spelling
import LineAtlas.Proofs.Prompt.Reading
import LineAtlas.Proofs.Prompt.Session
import LineAtlas.Proofs.CharMap.Printed
import LineAtlas.Proofs.Identifier.Ordinary
import LineAtlas.Proofs.Index.Collected
import LineAtlas.Proofs.Script.Collected
import LineAtlas.Proofs.Json.Spelled
import LineAtlas.Proofs.Json.Pretty
import LineAtlas.Proofs.Record
