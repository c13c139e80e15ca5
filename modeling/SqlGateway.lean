import SqlGateway.Catalog.Hierarchy
import SqlGateway.Catalog.Listing
import SqlGateway.Catalog.Metrics
import SqlGateway.Catalog.Object
import SqlGateway.Catalog.Queries
import SqlGateway.Catalog.Queries.MySql
import SqlGateway.Catalog.Queries.PostgreSql
import SqlGateway.Catalog.Queries.SqlServer
import SqlGateway.Catalog.Read
import SqlGateway.Catalog.Relationship
import SqlGateway.Change.Check
import SqlGateway.Change.Json
import SqlGateway.Change.Plan
import SqlGateway.Change.Schema
import SqlGateway.Change.Statement
import SqlGateway.Change.Table
import SqlGateway.CommandLine.Arguments
import SqlGateway.CommandLine.Invocation
import SqlGateway.CommandLine.Payload
import SqlGateway.CommandLine.Run
import SqlGateway.Connection.Definition
import SqlGateway.Connection.PoolLimits
import SqlGateway.Connection.Url
import SqlGateway.Datum.Basic
import SqlGateway.Datum.Category
import SqlGateway.Datum.ColumnData
import SqlGateway.Datum.Decode
import SqlGateway.Datum.Driver
import SqlGateway.Datum.Kind
import SqlGateway.Datum.Libraries
import SqlGateway.Datum.TextForm
import SqlGateway.Datum.Uuid
import SqlGateway.Engine
import SqlGateway.Entries
import SqlGateway.Failure
import SqlGateway.Failure.Driver
import SqlGateway.Gateway.Browse
import SqlGateway.Gateway.Change
import SqlGateway.Gateway.Databases
import SqlGateway.Json.Decode
import SqlGateway.Json.Lookup
import SqlGateway.Json.ReadError
import SqlGateway.Json.Reader
import SqlGateway.Json.Schema
import SqlGateway.Json.Skip
import SqlGateway.Json.Typed
import SqlGateway.Json.Value
import SqlGateway.Json.Writer
import SqlGateway.Main
import SqlGateway.Node.Id
import SqlGateway.Node.Segment
import SqlGateway.Number.Binary64
import SqlGateway.Number.Layout
import SqlGateway.Number.Rounding
import SqlGateway.Number.Shortest
import SqlGateway.Parameter
import SqlGateway.Proofs.Catalog.Answer
import SqlGateway.Proofs.Catalog.Columns
import SqlGateway.Proofs.Catalog.Listing
import SqlGateway.Proofs.Catalog.Planning
import SqlGateway.Proofs.Catalog.Server
import SqlGateway.Proofs.Catalog.Spot
import SqlGateway.Proofs.Catalog.Tables
import SqlGateway.Proofs.Catalog.Trail
import SqlGateway.Proofs.Change.Action
import SqlGateway.Proofs.Change.Controls
import SqlGateway.Proofs.Change.Identity
import SqlGateway.Proofs.Change.Plan
import SqlGateway.Proofs.Change.Planning
import SqlGateway.Proofs.Change.Reading
import SqlGateway.Proofs.Change.Renaming
import SqlGateway.Proofs.Change.Statement
import SqlGateway.Proofs.Connection.Limits
import SqlGateway.Proofs.Connection.Masking
import SqlGateway.Proofs.Connection.Naming
import SqlGateway.Proofs.Connection.Options
import SqlGateway.Proofs.Connection.Reading
import SqlGateway.Proofs.Datum.Forms
import SqlGateway.Proofs.Datum.Sent
import SqlGateway.Proofs.Datum.Shown
import SqlGateway.Proofs.Datum.Stored
import SqlGateway.Proofs.Datum.Types
import SqlGateway.Proofs.Json.Decoding
import SqlGateway.Proofs.Json.RoundTrip
import SqlGateway.Proofs.Node.Acceptance
import SqlGateway.Proofs.Node.Id
import SqlGateway.Proofs.Node.Path
import SqlGateway.Proofs.Node.Rendering
import SqlGateway.Proofs.Number.Wide
import SqlGateway.Proofs.Parameter.Binding
import SqlGateway.Proofs.Parameter.Reading
import SqlGateway.Proofs.Query.Batch
import SqlGateway.Proofs.Query.Naming
import SqlGateway.Proofs.Registry.Cells
import SqlGateway.Proofs.Registry.Closing
import SqlGateway.Proofs.Registry.Ending
import SqlGateway.Proofs.Registry.Fairness
import SqlGateway.Proofs.Registry.Freshness
import SqlGateway.Proofs.Registry.Guards
import SqlGateway.Proofs.Registry.Ledger
import SqlGateway.Proofs.Registry.Locks
import SqlGateway.Proofs.Registry.Masking
import SqlGateway.Proofs.Registry.Moves
import SqlGateway.Proofs.Registry.Open
import SqlGateway.Proofs.Registry.Progress
import SqlGateway.Proofs.Registry.Rehearsal
import SqlGateway.Proofs.Registry.Rounds
import SqlGateway.Proofs.Registry.Secrecy
import SqlGateway.Proofs.Registry.Sections
import SqlGateway.Proofs.Registry.SingleFlight
import SqlGateway.Proofs.Registry.Stages
import SqlGateway.Proofs.Registry.Turns
import SqlGateway.Proofs.Registry.Upkeep
import SqlGateway.Proofs.Report.Alignment
import SqlGateway.Proofs.Row.Reading
import SqlGateway.Proofs.Row.Update
import SqlGateway.Proofs.Server.Calls
import SqlGateway.Proofs.Server.Conservation
import SqlGateway.Proofs.Server.Course
import SqlGateway.Proofs.Server.Databases
import SqlGateway.Proofs.Server.Pools
import SqlGateway.Proofs.Server.Statements
import SqlGateway.Proofs.Sql.Fragment
import SqlGateway.Proofs.Sql.Nesting
import SqlGateway.Proofs.Sql.Quoting
import SqlGateway.Proofs.Sql.Sentence
import SqlGateway.Proofs.Text.Classes
import SqlGateway.Proofs.Text.Digits
import SqlGateway.Proofs.Text.Utf8
import SqlGateway.Proofs.Text.Width
import SqlGateway.Proofs.Time.Reading
import SqlGateway.Proofs.Url.Percent
import SqlGateway.Proofs.Url.Query
import SqlGateway.Proofs.Url.Reading
import SqlGateway.Query.Batch
import SqlGateway.Query.Result
import SqlGateway.Registry.Basic
import SqlGateway.Registry.Connector
import SqlGateway.Registry.Guards
import SqlGateway.Registry.Machine
import SqlGateway.Registry.Rehearsal
import SqlGateway.Report.Metrics
import SqlGateway.Report.Size
import SqlGateway.Report.Table
import SqlGateway.Row.Schema
import SqlGateway.Row.Update
import SqlGateway.Server.Backend
import SqlGateway.Server.Pools
import SqlGateway.Server.Script
import SqlGateway.Server.ScriptDocument
import SqlGateway.Server.Statements
import SqlGateway.Sql.Fragment
import SqlGateway.Sql.Quoting
import SqlGateway.Text.Alphanumeric
import SqlGateway.Text.Base64
import SqlGateway.Text.Ranges
import SqlGateway.Text.CodeTable
import SqlGateway.Text.Composed
import SqlGateway.Text.Composed.Tables
import SqlGateway.Text.Digit
import SqlGateway.Text.Fold
import SqlGateway.Text.Hidden
import SqlGateway.Text.Marks
import SqlGateway.Text.Quoted
import SqlGateway.Text.Split
import SqlGateway.Text.Utf8
import SqlGateway.Text.Width
import SqlGateway.Text.Width.Tables
import SqlGateway.Time.Calendar
import SqlGateway.Time.Reading
import SqlGateway.Time.Writing
import SqlGateway.Url.Basic
import SqlGateway.Url.Domain
import SqlGateway.Url.Domain.Direction
import SqlGateway.Url.Domain.Joining
import SqlGateway.Url.Domain.Mapping
import SqlGateway.Url.Domain.MappingTable
import SqlGateway.Url.Domain.Punycode
import SqlGateway.Url.Host
import SqlGateway.Url.Ipv6
import SqlGateway.Url.Percent
