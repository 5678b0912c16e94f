import SqlGateway.Connection.Address
import SqlGateway.Connection.Call
import SqlGateway.Connection.Driver
import SqlGateway.Connection.Handle
import SqlGateway.Connection.Identifier
import SqlGateway.Connection.Info
import SqlGateway.Connection.Opener
import SqlGateway.Dialect
import SqlGateway.Engine.Affinity
import SqlGateway.Engine.Aggregate
import SqlGateway.Engine.Catalog
import SqlGateway.Engine.Cell
import SqlGateway.Engine.Command
import SqlGateway.Engine.Definition
import SqlGateway.Engine.Lexeme
import SqlGateway.Engine.Read
import SqlGateway.Engine.Reader
import SqlGateway.Engine.Script
import SqlGateway.Engine.Table
import SqlGateway.Engine.Write
import SqlGateway.Failure.Basic
import SqlGateway.Failure.Fault
import SqlGateway.Http.MediaType
import SqlGateway.Http.Message
import SqlGateway.Http.Route
import SqlGateway.Http.Service
import SqlGateway.Json.Basic
import SqlGateway.Json.Decode
import SqlGateway.Json.Source
import SqlGateway.Main
import SqlGateway.Number.Decimal
import SqlGateway.Number.Float
import SqlGateway.Number.FloatText
import SqlGateway.Number.Integer
import SqlGateway.Number.Rounding
import SqlGateway.Number.Shortest
import SqlGateway.Parameter.Basic
import SqlGateway.Parameter.Wire
import SqlGateway.Program.Start
import SqlGateway.Query.Basic
import SqlGateway.Query.Compile
import SqlGateway.Query.Document
import SqlGateway.Query.JoinPlan
import SqlGateway.Query.Plan
import SqlGateway.Query.Rejection
import SqlGateway.Query.Result
import SqlGateway.Query.Run
import SqlGateway.Registry.Basic
import SqlGateway.Schema.Catalog
import SqlGateway.Schema.Category
import SqlGateway.Schema.Inspection
import SqlGateway.Schema.Table
import SqlGateway.Server.Binding
import SqlGateway.Server.Catalog
import SqlGateway.Server.CatalogStatement
import SqlGateway.Server.Conversation
import SqlGateway.Server.MysqlCell
import SqlGateway.Server.PostgresCell
import SqlGateway.Server.Script
import SqlGateway.Settings.Basic
import SqlGateway.Settings.CommandLine
import SqlGateway.Settings.Pool
import SqlGateway.Site.Basic
import SqlGateway.Site.Databases
import SqlGateway.Site.Files
import SqlGateway.Statement.Draft
import SqlGateway.Store.Basic
import SqlGateway.Store.Migration
import SqlGateway.Store.Record
import SqlGateway.Text.Blank
import SqlGateway.Text.Bytes
import SqlGateway.Text.Case
import SqlGateway.Text.Percent
import SqlGateway.Text.Printable
import SqlGateway.Text.Quoted
import SqlGateway.Text.Utf8
import SqlGateway.Time.Calendar
import SqlGateway.Time.Moment
import SqlGateway.Time.Reader
import SqlGateway.Transaction.Basic
import SqlGateway.Transaction.Unit
import SqlGateway.Url.Basic
import SqlGateway.Url.Host
import SqlGateway.Uuid
import SqlGateway.Value
import SqlGateway.Work.Basic
import SqlGateway.Work.Outcome
import SqlGateway.Proofs.Statement.Draft
import SqlGateway.Proofs.Query.Accepted
import SqlGateway.Proofs.Query.Wording
import SqlGateway.Proofs.Query.Shape
import SqlGateway.Proofs.Query.Containment
import SqlGateway.Proofs.Query.Arguments
import SqlGateway.Proofs.Registry.Lookup
import SqlGateway.Proofs.Registry.Store
import SqlGateway.Proofs.Registry.Abandoned
import SqlGateway.Proofs.Registry.Agreement
import SqlGateway.Proofs.Connection.Effect
import SqlGateway.Proofs.Connection.Sharing
import SqlGateway.Proofs.Query.Descendants
import SqlGateway.Proofs.Query.WellFormed
import SqlGateway.Proofs.Query.Clauses
import SqlGateway.Proofs.Query.WorkList
import SqlGateway.Proofs.Query.NormalForm
import SqlGateway.Proofs.Query.Grouping
import SqlGateway.Proofs.Number.Padded
import SqlGateway.Proofs.Number.DecimalText
import SqlGateway.Proofs.Uuid
import SqlGateway.Proofs.Time.Calendar
import SqlGateway.Proofs.Time.Written
import SqlGateway.Proofs.Json.Canonical
import SqlGateway.Proofs.Parameter.SentBack
import SqlGateway.Proofs.Query.Labels
import SqlGateway.Proofs.Query.Scope
import SqlGateway.Proofs.Transaction.AllOrNothing
import SqlGateway.Proofs.Connection.Removal
import SqlGateway.Proofs.Connection.RemovalStep
import SqlGateway.Proofs.Connection.AfterRemoval
import SqlGateway.Proofs.Number.Nearest
import SqlGateway.Proofs.Number.LargeDecimal
import SqlGateway.Proofs.Json.IntegerLiteral
import SqlGateway.Proofs.Parameter.Integer
import SqlGateway.Proofs.Query.Dialects
import SqlGateway.Proofs.Statement.Meaning
import SqlGateway.Proofs.Store.RoundTrip
import SqlGateway.Proofs.Json.Printed
import SqlGateway.Proofs.Json.Reads
import SqlGateway.Proofs.Query.Document
import SqlGateway.Proofs.Work.Lockstep
import SqlGateway.Proofs.Registry.Veiled
import SqlGateway.Proofs.Http.Veiled
import SqlGateway.Proofs.Parameter.Representation
import SqlGateway.Proofs.Query.Binding
import SqlGateway.Proofs.Query.CutAliases
import SqlGateway.Proofs.Json.Field
import SqlGateway.Proofs.Query.Body
import SqlGateway.Proofs.Query.Filters
import SqlGateway.Proofs.Number.IntegerText
import SqlGateway.Proofs.Parameter.IntegerOrText
import SqlGateway.Proofs.Schema.Runs
import SqlGateway.Proofs.Schema.Tables
import SqlGateway.Proofs.Schema.Routines
import SqlGateway.Proofs.Statement.Window
import SqlGateway.Proofs.Uuid.Spelling
import SqlGateway.Proofs.Registry.Listing
import SqlGateway.Proofs.Failure.Retag
import SqlGateway.Proofs.Http.Spelling
import SqlGateway.Proofs.Url.Delimited
import SqlGateway.Proofs.Url.Read
import SqlGateway.Proofs.Url.Masked
import SqlGateway.Proofs.Settings.Pool
import SqlGateway.Proofs.Dialect
