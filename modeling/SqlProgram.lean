import SqlProgram.Arithmetic
import SqlProgram.Backend.Basic
import SqlProgram.Backend.Job
import SqlProgram.Backend.Reply
import SqlProgram.Backend.Rows
import SqlProgram.Binary.BigEndian
import SqlProgram.Calendar.Date
import SqlProgram.Calendar.Duration
import SqlProgram.Calendar.Timestamp
import SqlProgram.Decimal.Binary
import SqlProgram.Decimal.Layout
import SqlProgram.Decimal.Reader
import SqlProgram.Decimal.Shortest
import SqlProgram.Document.Basic
import SqlProgram.Document.Run
import SqlProgram.Document.Statement
import SqlProgram.Document.Value
import SqlProgram.Double
import SqlProgram.Event
import SqlProgram.Failure.Basic
import SqlProgram.Failure.Rejection
import SqlProgram.Field.Basic
import SqlProgram.Field.Expr
import SqlProgram.Ident
import SqlProgram.Json.Basic
import SqlProgram.Json.Printer
import SqlProgram.Json.Reader
import SqlProgram.Outcome
import SqlProgram.Parameter
import SqlProgram.Placeholder
import SqlProgram.Postgres.Address
import SqlProgram.Postgres.Backend
import SqlProgram.Postgres.Client
import SqlProgram.Postgres.Config
import SqlProgram.Postgres.ConnectionString
import SqlProgram.Postgres.Decode
import SqlProgram.Postgres.Encode
import SqlProgram.Postgres.Numeric
import SqlProgram.Postgres.Server
import SqlProgram.Postgres.WireType
import SqlProgram.Program.Basic
import SqlProgram.Program.Dialogue
import SqlProgram.Program.Leaf
import SqlProgram.Program.Machine
import SqlProgram.Proofs.AlikeTexts
import SqlProgram.Proofs.AnonymousNames
import SqlProgram.Proofs.AnsweredRuns
import SqlProgram.Proofs.BlankedText
import SqlProgram.Proofs.BlockingAccounts
import SqlProgram.Proofs.BlockingTurns
import SqlProgram.Proofs.BoundIntegers
import SqlProgram.Proofs.BoundText
import SqlProgram.Proofs.BuilderAgreement
import SqlProgram.Proofs.BuilderCalls
import SqlProgram.Proofs.ByteScan
import SqlProgram.Proofs.CallDiscipline
import SqlProgram.Proofs.CollectedRows
import SqlProgram.Proofs.CompletedJobs
import SqlProgram.Proofs.CompletedRuns
import SqlProgram.Proofs.ConnectionAccounts
import SqlProgram.Proofs.DescribedPrograms
import SqlProgram.Proofs.DraftAgreement
import SqlProgram.Proofs.DraftBalance
import SqlProgram.Proofs.DriftChecking
import SqlProgram.Proofs.ExactExpansion
import SqlProgram.Proofs.FaithfulLiterals
import SqlProgram.Proofs.FieldPositions
import SqlProgram.Proofs.FirstCalls
import SqlProgram.Proofs.FixedStructure
import SqlProgram.Proofs.FlatPrograms
import SqlProgram.Proofs.FormulaReading
import SqlProgram.Proofs.FreedConnections
import SqlProgram.Proofs.FreeingJobs
import SqlProgram.Proofs.HeldConnections
import SqlProgram.Proofs.HistoryEntries
import SqlProgram.Proofs.InsertedRows
import SqlProgram.Proofs.IsolatedRuns
import SqlProgram.Proofs.JobAnswers
import SqlProgram.Proofs.JobRules
import SqlProgram.Proofs.JobSteps
import SqlProgram.Proofs.LeafCalls
import SqlProgram.Proofs.LeafTurns
import SqlProgram.Proofs.ListedItems
import SqlProgram.Proofs.LiteralText
import SqlProgram.Proofs.LoanRecords
import SqlProgram.Proofs.NameGrammar
import SqlProgram.Proofs.NameRoundTrip
import SqlProgram.Proofs.NumberedText
import SqlProgram.Proofs.NumericGroups
import SqlProgram.Proofs.NumericSafety
import SqlProgram.Proofs.OpenStreams
import SqlProgram.Proofs.OpeningCalls
import SqlProgram.Proofs.ParameterReferences
import SqlProgram.Proofs.PlaceholderBalance
import SqlProgram.Proofs.PlayedScript
import SqlProgram.Proofs.PollPatience
import SqlProgram.Proofs.PositionalDecoding
import SqlProgram.Proofs.ProgramCourse
import SqlProgram.Proofs.ProgramMeaning
import SqlProgram.Proofs.QuotedTokens
import SqlProgram.Proofs.ReactiveAccounts
import SqlProgram.Proofs.ReactiveTurns
import SqlProgram.Proofs.ReadableFields
import SqlProgram.Proofs.RecordRules
import SqlProgram.Proofs.RequalifiedTables
import SqlProgram.Proofs.ReturnedColumns
import SqlProgram.Proofs.ReturnedFields
import SqlProgram.Proofs.RowCourse
import SqlProgram.Proofs.RowDelivery
import SqlProgram.Proofs.RowLoans
import SqlProgram.Proofs.RunAgreement
import SqlProgram.Proofs.RunFailures
import SqlProgram.Proofs.ScannedTokens
import SqlProgram.Proofs.ScriptPlay
import SqlProgram.Proofs.SessionAgreement
import SqlProgram.Proofs.SessionMeaning
import SqlProgram.Proofs.SharedBackend
import SqlProgram.Proofs.StatementCalls
import SqlProgram.Proofs.StreamPolling
import SqlProgram.Proofs.StreamRules
import SqlProgram.Proofs.TextPieces
import SqlProgram.Proofs.TidyDrafts
import SqlProgram.Proofs.TransactionOrder
import SqlProgram.Proofs.TransactionProtocol
import SqlProgram.Proofs.ValueRoundTrip
import SqlProgram.Proofs.WhereGrouping
import SqlProgram.Proofs.WholeNumerics
import SqlProgram.Quote
import SqlProgram.Row.Basic
import SqlProgram.Row.Layout
import SqlProgram.Run.Blocking
import SqlProgram.Run.ProgramStream
import SqlProgram.Run.Reactive
import SqlProgram.Run.RowQuery
import SqlProgram.Run.Strategy
import SqlProgram.Script.Backend
import SqlProgram.Script.Server
import SqlProgram.Statement.Basic
import SqlProgram.Statement.Condition
import SqlProgram.Statement.Draft
import SqlProgram.Statement.Fragment
import SqlProgram.Table
import SqlProgram.Text.Blank
import SqlProgram.Text.Escaped
import SqlProgram.Text.Fold
import SqlProgram.Text.Hex
import SqlProgram.Text.Printable
import SqlProgram.Text.Quoted
import SqlProgram.Text.Utf8
import SqlProgram.Uuid
import SqlProgram.Value.Basic
import SqlProgram.Value.Literal
import SqlProgram.Value.Type
