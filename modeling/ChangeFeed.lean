import ChangeFeed.Binary64
import ChangeFeed.Binary64.Shortest
import ChangeFeed.Catalog
import ChangeFeed.Catalog.Codec
import ChangeFeed.Delivery
import ChangeFeed.Directory
import ChangeFeed.Engine.Properties
import ChangeFeed.Engine.Script
import ChangeFeed.Error
import ChangeFeed.Event
import ChangeFeed.Event.Codec
import ChangeFeed.Gzip
import ChangeFeed.Gzip.Checksum
import ChangeFeed.Gzip.Huffman
import ChangeFeed.Gzip.Inflate
import ChangeFeed.History
import ChangeFeed.History.Blob
import ChangeFeed.History.Persistence
import ChangeFeed.History.Timer
import ChangeFeed.Instant
import ChangeFeed.Instant.Read
import ChangeFeed.Instant.Text
import ChangeFeed.Interpreter
import ChangeFeed.Json
import ChangeFeed.Json.Decode
import ChangeFeed.Json.Doc
import ChangeFeed.Json.Fault
import ChangeFeed.Json.Number
import ChangeFeed.Json.Print
import ChangeFeed.Json.Read
import ChangeFeed.Position
import ChangeFeed.Position.Codec
import ChangeFeed.Proofs.Binary64.Rounding
import ChangeFeed.Proofs.Binary64.Shortest
import ChangeFeed.Proofs.Delivery
import ChangeFeed.Proofs.Delivery.Outcome
import ChangeFeed.Proofs.Directory
import ChangeFeed.Proofs.Event.Codec
import ChangeFeed.Proofs.Gzip
import ChangeFeed.Proofs.History.Blob
import ChangeFeed.Proofs.History.Consistent
import ChangeFeed.Proofs.History.Growth
import ChangeFeed.Proofs.History.Operations
import ChangeFeed.Proofs.History.Recording
import ChangeFeed.Proofs.History.Restored
import ChangeFeed.Proofs.History.Saved
import ChangeFeed.Proofs.History.Timer
import ChangeFeed.Proofs.History.Writes
import ChangeFeed.Proofs.Instant
import ChangeFeed.Proofs.Interpretation
import ChangeFeed.Proofs.Interpretation.Outcome
import ChangeFeed.Proofs.Interpretation.Recorded
import ChangeFeed.Proofs.Json.Decoding
import ChangeFeed.Proofs.Json.Fields
import ChangeFeed.Proofs.Json.Float
import ChangeFeed.Proofs.Json.Number
import ChangeFeed.Proofs.Json.Parallel
import ChangeFeed.Proofs.Json.Reading
import ChangeFeed.Proofs.Json.Spelling
import ChangeFeed.Proofs.Json.Text
import ChangeFeed.Proofs.Position
import ChangeFeed.Proofs.Position.Coarse
import ChangeFeed.Proofs.Position.Codec
import ChangeFeed.Proofs.Queue.Books
import ChangeFeed.Proofs.Queue.Line
import ChangeFeed.Proofs.Queue.Safety
import ChangeFeed.Proofs.Queue.Turns
import ChangeFeed.Proofs.Registration
import ChangeFeed.Proofs.Row.Codec
import ChangeFeed.Proofs.Row.Coerce
import ChangeFeed.Proofs.Schema.Agreement
import ChangeFeed.Proofs.Schema.Codec
import ChangeFeed.Proofs.Schema.Dialect
import ChangeFeed.Proofs.Schema.Fanout
import ChangeFeed.Proofs.Schema.Heads
import ChangeFeed.Proofs.Schema.Joined
import ChangeFeed.Proofs.Schema.Keys
import ChangeFeed.Proofs.Schema.Targets
import ChangeFeed.Proofs.Session.Completion
import ChangeFeed.Proofs.Session.Failure
import ChangeFeed.Proofs.Session.Lifecycle
import ChangeFeed.Proofs.Session.Order
import ChangeFeed.Proofs.Session.Remaining
import ChangeFeed.Proofs.Session.Resumption
import ChangeFeed.Proofs.Session.Shutdown
import ChangeFeed.Proofs.Session.Steps
import ChangeFeed.Proofs.Session.Transcript
import ChangeFeed.Proofs.Settings.Secrecy
import ChangeFeed.Proofs.Snapshot.Agreement
import ChangeFeed.Proofs.Snapshot.Offset
import ChangeFeed.Proofs.SortedMap
import ChangeFeed.Proofs.Sql.Lexing
import ChangeFeed.Proofs.Sql.Parsing
import ChangeFeed.Proofs.Sql.Pieces
import ChangeFeed.Proofs.Sql.Statements
import ChangeFeed.Proofs.Sql.Tables
import ChangeFeed.Proofs.Store
import ChangeFeed.Proofs.Store.File
import ChangeFeed.Proofs.Store.Interruption
import ChangeFeed.Proofs.Store.Refinement
import ChangeFeed.Proofs.Text.Base64
import ChangeFeed.Proofs.Text.Uppercase
import ChangeFeed.Proofs.Text.Utf8
import ChangeFeed.Proofs.Text.Words
import ChangeFeed.Queue
import ChangeFeed.Queue.Contention
import ChangeFeed.Record
import ChangeFeed.Record.Codec
import ChangeFeed.Record.Describe
import ChangeFeed.Registration
import ChangeFeed.Row
import ChangeFeed.Row.Codec
import ChangeFeed.Row.Coerce
import ChangeFeed.Row.Describe
import ChangeFeed.Schema.Change
import ChangeFeed.Schema.Codec
import ChangeFeed.Schema.Dialect
import ChangeFeed.Schema.Interpretation
import ChangeFeed.Schema.Raw
import ChangeFeed.Schema.Structured
import ChangeFeed.Session
import ChangeFeed.Session.Schedule
import ChangeFeed.Settings
import ChangeFeed.Settings.Codec
import ChangeFeed.Snapshot
import ChangeFeed.Snapshot.Codec
import ChangeFeed.SortedMap
import ChangeFeed.Sql.Expr
import ChangeFeed.Sql.Keyword
import ChangeFeed.Sql.Lexer
import ChangeFeed.Sql.Name
import ChangeFeed.Sql.Parse
import ChangeFeed.Sql.Parse.Clause
import ChangeFeed.Sql.Parse.Column
import ChangeFeed.Sql.Parse.DataType
import ChangeFeed.Sql.Parse.Expr
import ChangeFeed.Sql.Parse.Name
import ChangeFeed.Sql.Parse.Object
import ChangeFeed.Sql.Parse.Operator
import ChangeFeed.Sql.Parse.Privilege
import ChangeFeed.Sql.Parse.Query
import ChangeFeed.Sql.Parse.Report
import ChangeFeed.Sql.Parse.Rows
import ChangeFeed.Sql.Parse.Session
import ChangeFeed.Sql.Parse.Source
import ChangeFeed.Sql.Parse.Statement
import ChangeFeed.Sql.Parse.Table
import ChangeFeed.Sql.Statement
import ChangeFeed.Sql.Token
import ChangeFeed.Store
import ChangeFeed.Store.File
import ChangeFeed.Store.Memory
import ChangeFeed.Text.Base64
import ChangeFeed.Text.Blank
import ChangeFeed.Text.Diagnosis
import ChangeFeed.Text.Letters
import ChangeFeed.Text.Lowercase
import ChangeFeed.Text.Printable
import ChangeFeed.Text.Quoted
import ChangeFeed.Text.Ranges
import ChangeFeed.Text.Search
import ChangeFeed.Text.Uppercase
import ChangeFeed.Text.Utf8
