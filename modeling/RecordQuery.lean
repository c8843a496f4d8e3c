import RecordQuery.Main
import RecordQuery.Store.Faults
import RecordQuery.Proofs.Clause.Cutting
import RecordQuery.Proofs.Text.Trimming
import RecordQuery.Proofs.Token.Reading
import RecordQuery.Proofs.Literal.Spelling
import RecordQuery.Proofs.SortedMap
import RecordQuery.Proofs.Statement.Draft
import RecordQuery.Proofs.Statement.Writing
import RecordQuery.Proofs.Statement.RoundTrip
import RecordQuery.Proofs.Clause.Alike
import RecordQuery.Proofs.Token.Replacing
import RecordQuery.Proofs.Token.Lines
import RecordQuery.Proofs.Statement.Alike
import RecordQuery.Proofs.Clause.Matching
import RecordQuery.Proofs.Clause.Replacing
import RecordQuery.Proofs.Clause.Nesting
import RecordQuery.Proofs.Statement.Shape
import RecordQuery.Proofs.Statement.Places
import RecordQuery.Proofs.Statement.Substitution
import RecordQuery.Proofs.Statement.Command
import RecordQuery.Proofs.Statement.Opening
import RecordQuery.Proofs.Statement.Language
import RecordQuery.Proofs.Statement.InsertLanguage
import RecordQuery.Proofs.Statement.SelectLanguage
import RecordQuery.Proofs.Statement.WriteSet
import RecordQuery.Proofs.Statement.QuotedData
import RecordQuery.Proofs.Executor.Screening
import RecordQuery.Proofs.Request.Running
import RecordQuery.Proofs.Request.Routing
import RecordQuery.Proofs.Engine.Channel
import RecordQuery.Proofs.Engine.Events
import RecordQuery.Proofs.Engine.Framing
import RecordQuery.Proofs.Store.Contents
import RecordQuery.Proofs.Executor.Sweep
import RecordQuery.Proofs.Text.ByteOrder
import RecordQuery.Proofs.Record
import RecordQuery.Proofs.Store.Changes
import RecordQuery.Proofs.Store.History
import RecordQuery.Proofs.Store.Listing
import RecordQuery.Proofs.Store.Tables
import RecordQuery.Proofs.Store.Commuting
import RecordQuery.Proofs.Request.Catalogue
import RecordQuery.Proofs.Narrowing
import RecordQuery.Proofs.Store.Faults
import RecordQuery.Proofs.Executor.Updating
import RecordQuery.Proofs.Executor.Statements
import RecordQuery.Proofs.Executor.Repeating
import RecordQuery.Proofs.Executor.Operations
import RecordQuery.Proofs.Executor.Inserting
import RecordQuery.Proofs.Executor.Identity
import RecordQuery.Proofs.Number.Truncation
import RecordQuery.Proofs.Executor.Selecting
import RecordQuery.Proofs.Request.Commuting
import RecordQuery.Proofs.Shell.Sessions
import RecordQuery.Proofs.Shell.Typing
import RecordQuery.Proofs.Statement.Preview
import RecordQuery.Proofs.Executor.Preview
import RecordQuery.Proofs.Executor.Browsing
import RecordQuery.Proofs.Executor.Editing
import RecordQuery.Proofs.Number.Rounding
import RecordQuery.Proofs.Number.Shortest
import RecordQuery.Proofs.Number.Numeral
import RecordQuery.Proofs.Number.ReadingBack
import RecordQuery.Proofs.Literal.Display
import RecordQuery.Proofs.Executor.NumericKeys
import RecordQuery.Proofs.Number.Nearest
import RecordQuery.Proofs.Literal.Numerals
import RecordQuery.Proofs.Json
import RecordQuery.Proofs.Store.Seeding
import RecordQuery.Proofs.Shell.Completion
import RecordQuery.Proofs.Csv.Reading
import RecordQuery.Proofs.Csv.LineEnds
import RecordQuery.Proofs.Value
import RecordQuery.Proofs.Row
import RecordQuery.Proofs.Settings
import RecordQuery.Proofs.Shell.Editing
import RecordQuery.Proofs.Token.Joining
import RecordQuery.Proofs.Clause.Splitting
import RecordQuery.Proofs.Bytes.Safety
