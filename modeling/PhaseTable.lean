import PhaseTable.Cell
import PhaseTable.Config
import PhaseTable.Config.Check
import PhaseTable.Config.Defaults
import PhaseTable.Config.Loading
import PhaseTable.Config.Notice
import PhaseTable.Event
import PhaseTable.Files
import PhaseTable.Filter
import PhaseTable.Filter.Clause
import PhaseTable.Filter.Condition
import PhaseTable.Json.Decoding
import PhaseTable.Json.Document
import PhaseTable.Json.Mismatch
import PhaseTable.Json.Numeral
import PhaseTable.Json.Printer
import PhaseTable.Json.Reader
import PhaseTable.Json.Value
import PhaseTable.Log
import PhaseTable.Number.Binary64
import PhaseTable.Number.Numeral
import PhaseTable.Number.Positional
import PhaseTable.Number.Rounding
import PhaseTable.Number.Shortest
import PhaseTable.Operator
import PhaseTable.OrderedMap
import PhaseTable.Predicate
import PhaseTable.Proofs.Cell
import PhaseTable.Proofs.Cell.TextForm
import PhaseTable.Proofs.Cell.WholeNumbers
import PhaseTable.Proofs.Config.ColumnOrder
import PhaseTable.Proofs.Config.FixedPoint
import PhaseTable.Proofs.Config.Loading
import PhaseTable.Proofs.Config.Reports
import PhaseTable.Proofs.Config.RoundTrip
import PhaseTable.Proofs.Config.TakenKeys
import PhaseTable.Proofs.Config.UnknownSettings
import PhaseTable.Proofs.Config.WellFormed
import PhaseTable.Proofs.Filter.CheckedRule
import PhaseTable.Proofs.Filter.Clause
import PhaseTable.Proofs.Filter.Comparison
import PhaseTable.Proofs.Filter.Denial
import PhaseTable.Proofs.Filter.Failure
import PhaseTable.Proofs.Filter.LetterCase
import PhaseTable.Proofs.Filter.Proper
import PhaseTable.Proofs.Filter.RulePriority
import PhaseTable.Proofs.Filter.Signature
import PhaseTable.Proofs.Filter.Silence
import PhaseTable.Proofs.Filter.Typing
import PhaseTable.Proofs.Json.Editing
import PhaseTable.Proofs.Json.IntegerKeys
import PhaseTable.Proofs.Json.Ordered
import PhaseTable.Proofs.Json.Places
import PhaseTable.Proofs.Json.Record
import PhaseTable.Proofs.Json.Valid
import PhaseTable.Proofs.Json.Values
import PhaseTable.Proofs.Number.IntegerTexts
import PhaseTable.Proofs.Number.Integers
import PhaseTable.Proofs.Number.LetterCase
import PhaseTable.Proofs.Number.Nearest
import PhaseTable.Proofs.Number.NumberTexts
import PhaseTable.Proofs.Number.ReadBack
import PhaseTable.Proofs.Number.Shortest
import PhaseTable.Proofs.Number.Spelling
import PhaseTable.Proofs.Number.Values
import PhaseTable.Proofs.Number.WholeValues
import PhaseTable.Proofs.Operator
import PhaseTable.Proofs.OrderedMap.Values
import PhaseTable.Proofs.Predicate.Text
import PhaseTable.Proofs.Query.Building
import PhaseTable.Proofs.Query.CheckedColumns
import PhaseTable.Proofs.Query.CollectedFalse
import PhaseTable.Proofs.Query.Groups
import PhaseTable.Proofs.Query.Locality
import PhaseTable.Proofs.Query.Normalizing
import PhaseTable.Proofs.Query.Repeats
import PhaseTable.Proofs.Query.Text
import PhaseTable.Proofs.Query.TypedNumbers
import PhaseTable.Proofs.Query.ValueLists
import PhaseTable.Proofs.Reduction
import PhaseTable.Proofs.Reduction.DistinctValues
import PhaseTable.Proofs.Reduction.Extremes
import PhaseTable.Proofs.Rule
import PhaseTable.Proofs.Selection
import PhaseTable.Proofs.Selection.FirstRows
import PhaseTable.Proofs.Session.Counters
import PhaseTable.Proofs.Session.Losses
import PhaseTable.Proofs.Session.Observers
import PhaseTable.Proofs.Session.Quotations
import PhaseTable.Proofs.Session.Severity
import PhaseTable.Proofs.Setting
import PhaseTable.Proofs.Source
import PhaseTable.Proofs.Source.Readers
import PhaseTable.Proofs.Table.Cells
import PhaseTable.Proofs.Table.Locality
import PhaseTable.Proofs.Table.Lookup
import PhaseTable.Proofs.Table.Merging
import PhaseTable.Proofs.Table.PhaseName
import PhaseTable.Proofs.Table.PhaseNumber
import PhaseTable.Proofs.Table.Phases
import PhaseTable.Proofs.Table.Reading
import PhaseTable.Proofs.Table.RoundTrip
import PhaseTable.Proofs.Table.StandIns
import PhaseTable.Proofs.Table.Texts
import PhaseTable.Proofs.Text.AsciiCase
import PhaseTable.Proofs.Text.Distinct
import PhaseTable.Proofs.Text.Joining
import PhaseTable.Proofs.Text.LetterCase
import PhaseTable.Proofs.Text.Runs
import PhaseTable.Proofs.Text.Search
import PhaseTable.Proofs.Text.SplitValues
import PhaseTable.Proofs.Text.Trimming
import PhaseTable.Query
import PhaseTable.Query.Building
import PhaseTable.Reduction
import PhaseTable.Rule
import PhaseTable.Selection
import PhaseTable.Session
import PhaseTable.Session.Calls
import PhaseTable.Setting
import PhaseTable.Snapshot
import PhaseTable.Source
import PhaseTable.Table
import PhaseTable.Text.Blank
import PhaseTable.Text.CaseTable
import PhaseTable.Text.LowerCase
import PhaseTable.Text.Pieces
import PhaseTable.Text.Quoted
