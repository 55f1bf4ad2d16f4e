import BoundSql.Action
import BoundSql.Batch.Chunk
import BoundSql.Batch.Insert
import BoundSql.Batch.Plan
import BoundSql.CommandLine.Grammar
import BoundSql.CommandLine.Invocation
import BoundSql.CommandLine.Program
import BoundSql.Config
import BoundSql.Config.Document
import BoundSql.Config.Fault
import BoundSql.Config.Options
import BoundSql.Config.Server
import BoundSql.Dialect
import BoundSql.Driver
import BoundSql.Driver.Connection
import BoundSql.Driver.Mysql
import BoundSql.Driver.Script
import BoundSql.Driver.Sqlite
import BoundSql.Embedded.Cell
import BoundSql.Embedded.Command
import BoundSql.Embedded.Database
import BoundSql.Embedded.Dump
import BoundSql.Embedded.Fault
import BoundSql.Embedded.Parser
import BoundSql.Embedded.Relation
import BoundSql.Embedded.Table
import BoundSql.Embedded.Term
import BoundSql.Embedded.Token
import BoundSql.Failure
import BoundSql.Filter
import BoundSql.Filter.Operator
import BoundSql.Fragment
import BoundSql.Json.Document
import BoundSql.Json.Fault
import BoundSql.Json.Number
import BoundSql.Json.Reader
import BoundSql.Json.Record
import BoundSql.Json.Rows
import BoundSql.Json.Text
import BoundSql.Main
import BoundSql.Model
import BoundSql.Number.Binary64
import BoundSql.Number.Integer
import BoundSql.Number.Layout
import BoundSql.Number.Power
import BoundSql.Number.Reading
import BoundSql.Number.Shortest
import BoundSql.Refusal
import BoundSql.ResultSet
import BoundSql.Row
import BoundSql.Schema.Column
import BoundSql.Schema.Creation
import BoundSql.Schema.Reading
import BoundSql.Schema.Table
import BoundSql.Session
import BoundSql.Session.Connect
import BoundSql.Statement.Delete
import BoundSql.Statement.Insert
import BoundSql.Statement.Select
import BoundSql.Statement.Update
import BoundSql.Text.Blank
import BoundSql.Text.Quoted
import BoundSql.Text.Split
import BoundSql.Text.Utf8
import BoundSql.Text.Visible
import BoundSql.Upsert
import BoundSql.Url
import BoundSql.Url.Form
import BoundSql.Url.Ipv6
import BoundSql.Url.Percent
import BoundSql.Value
import BoundSql.Proofs.Batch.Chunk
import BoundSql.Proofs.Batch.Insert
import BoundSql.Proofs.Action
import BoundSql.Proofs.Session
import BoundSql.Proofs.Model.Batch
import BoundSql.Proofs.Model.BatchWrite
import BoundSql.Proofs.Model.BatchRefusal
import BoundSql.Proofs.Filter
import BoundSql.Proofs.Statement
import BoundSql.Proofs.Editing
import BoundSql.Proofs.Statement.Editing
import BoundSql.Proofs.Session.Transaction
import BoundSql.Proofs.Action.Only
import BoundSql.Proofs.Driver.Keys
import BoundSql.Proofs.Driver.Databases
import BoundSql.Proofs.Model.RowInsert
import BoundSql.Proofs.Statement.Conditional
import BoundSql.Proofs.Model.Operation
import BoundSql.Proofs.Varying
import BoundSql.Proofs.Varying.Filter
import BoundSql.Proofs.Varying.Row
import BoundSql.Proofs.Varying.Statement
import BoundSql.Proofs.Varying.Batch
import BoundSql.Proofs.Clause.Token
import BoundSql.Proofs.Clause.Cut
import BoundSql.Proofs.Clause.Condition
import BoundSql.Proofs.Clause.Merge
import BoundSql.Proofs.Filter.Meaning
import BoundSql.Proofs.Dialect.Conflict
import BoundSql.Proofs.Dialect.Quotes
import BoundSql.Proofs.Model.RowChange
import BoundSql.Proofs.Action.Agree
import BoundSql.Proofs.Action.Refused
import BoundSql.Proofs.Statement.Scalar
import BoundSql.Proofs.Statement.Compiled
import BoundSql.Proofs.Model.Sending
import BoundSql.Proofs.Model.Reading
import BoundSql.Proofs.Model.Unobserved
import BoundSql.Proofs.Model.InsertFailure
import BoundSql.Proofs.Model.RefusedLate
import BoundSql.Proofs.Session.Bindable
import BoundSql.Proofs.Schema.Constraint
import BoundSql.Proofs.Json.Text
import BoundSql.Proofs.Json.Number
import BoundSql.Proofs.Json.Grammar
import BoundSql.Proofs.Json.Valid
import BoundSql.Proofs.Json.Written
import BoundSql.Proofs.Json.Reader
import BoundSql.Proofs.Json.Value
import BoundSql.Proofs.Value.Literal
import BoundSql.Proofs.Row
import BoundSql.Proofs.Json.Row
import BoundSql.Proofs.Row.OrderedMap
import BoundSql.Proofs.Json.Record
import BoundSql.Proofs.Schema.Reading
import BoundSql.Proofs.Text.Utf8
import BoundSql.Proofs.Text.Split
import BoundSql.Proofs.Number.Integer
import BoundSql.Proofs.Url.Percent
import BoundSql.Proofs.Url.Server
import BoundSql.Proofs.Config.Document
import BoundSql.Proofs.Config.Options
import BoundSql.Proofs.Config.Url
import BoundSql.Proofs.Batch.Range
import BoundSql.Proofs.Batch.Remaining
import BoundSql.Proofs.Batch.Single
import BoundSql.Proofs.Batch.Requirement
import BoundSql.Proofs.Batch.Acceptance
import BoundSql.Proofs.Batch.Fewest
import BoundSql.Proofs.Filter.WellFormed
import BoundSql.Proofs.Text.Words
import BoundSql.Proofs.Text.Squeeze
import BoundSql.Proofs.Filter.Operator
import BoundSql.Proofs.Filter.Place
import BoundSql.Proofs.ResultSet
import BoundSql.Proofs.Config.File
import BoundSql.Proofs.Text.Order
import BoundSql.Proofs.Config.Server
import BoundSql.Proofs.CommandLine.Condition
