import Rowgate.Access.Check
import Rowgate.Access.Grant
import Rowgate.Access.SqlStore
import Rowgate.Access.Strategy
import Rowgate.Access.Task
import Rowgate.Address.ConnectionString
import Rowgate.Address.Email
import Rowgate.Address.Host
import Rowgate.Address.Name
import Rowgate.Address.NameTable
import Rowgate.Address.Punycode
import Rowgate.Address.Url
import Rowgate.Audit
import Rowgate.Cache
import Rowgate.Calendar.Date
import Rowgate.Calendar.Instant
import Rowgate.Calendar.Reader
import Rowgate.Column.Bytes
import Rowgate.Column.Decode
import Rowgate.Column.Encode
import Rowgate.Column.Type
import Rowgate.Database
import Rowgate.Decimal.Binary
import Rowgate.Decimal.Layout
import Rowgate.Decimal.Reader
import Rowgate.Decimal.Shortest
import Rowgate.Error
import Rowgate.Ident
import Rowgate.Json.Basic
import Rowgate.Json.Decode
import Rowgate.Json.Number
import Rowgate.Json.Reader
import Rowgate.Keeper.Basic
import Rowgate.Keeper.Delete
import Rowgate.Keeper.Get
import Rowgate.Keeper.Save
import Rowgate.Keyed
import Rowgate.Model.Basic
import Rowgate.Model.DataType
import Rowgate.Model.Mapping
import Rowgate.Number
import Rowgate.Options.Basic
import Rowgate.Options.Toml
import Rowgate.Params
import Rowgate.Pool
import Rowgate.Problem
import Rowgate.Program
import Rowgate.Proofs.Access.Check
import Rowgate.Proofs.Access.Decision
import Rowgate.Proofs.Access.Eager
import Rowgate.Proofs.Access.Order
import Rowgate.Proofs.Access.Rows
import Rowgate.Proofs.Access.Setwise
import Rowgate.Proofs.Access.SqlStore
import Rowgate.Proofs.Address
import Rowgate.Proofs.Ascending
import Rowgate.Proofs.Cache
import Rowgate.Proofs.Calendar.Date
import Rowgate.Proofs.Calendar.Instant
import Rowgate.Proofs.Calendar.Literal
import Rowgate.Proofs.Calendar.Micros
import Rowgate.Proofs.Calendar.Reader
import Rowgate.Proofs.Calendar.Reread
import Rowgate.Proofs.Column.Bytes
import Rowgate.Proofs.Column.Denotes
import Rowgate.Proofs.Column.Matching
import Rowgate.Proofs.Column.Restored
import Rowgate.Proofs.Decimal.Arithmetic
import Rowgate.Proofs.Decimal.Interval
import Rowgate.Proofs.Decimal.Layout
import Rowgate.Proofs.Decimal.Nearest
import Rowgate.Proofs.Decimal.Order
import Rowgate.Proofs.Decimal.Rounding
import Rowgate.Proofs.Decimal.Shortest
import Rowgate.Proofs.Ident
import Rowgate.Proofs.Json.Document
import Rowgate.Proofs.Json.Numeral
import Rowgate.Proofs.Json.Reading
import Rowgate.Proofs.Json.Reread
import Rowgate.Proofs.Json.String
import Rowgate.Proofs.Json.Text
import Rowgate.Proofs.Keeper.Atomic
import Rowgate.Proofs.Keeper.Basic
import Rowgate.Proofs.Keeper.BeforeImage
import Rowgate.Proofs.Keeper.CacheKey
import Rowgate.Proofs.Keeper.CacheUse
import Rowgate.Proofs.Keeper.Conditioned
import Rowgate.Proofs.Keeper.Create
import Rowgate.Proofs.Keeper.Entry
import Rowgate.Proofs.Keeper.History
import Rowgate.Proofs.Keeper.Licence
import Rowgate.Proofs.Keeper.Limit
import Rowgate.Proofs.Keeper.Operation
import Rowgate.Proofs.Keeper.Origin
import Rowgate.Proofs.Keeper.Read
import Rowgate.Proofs.Keeper.Refusal
import Rowgate.Proofs.Keeper.Report
import Rowgate.Proofs.Keeper.Rollback
import Rowgate.Proofs.Keeper.Routing
import Rowgate.Proofs.Keeper.Spelling
import Rowgate.Proofs.Keeper.Unplanned
import Rowgate.Proofs.Keeper.Verb
import Rowgate.Proofs.Keeper.Write
import Rowgate.Proofs.Ledger
import Rowgate.Proofs.Model.Check
import Rowgate.Proofs.Model.DataType
import Rowgate.Proofs.Model.Defaults
import Rowgate.Proofs.Model.Given
import Rowgate.Proofs.Model.Range
import Rowgate.Proofs.NameSet
import Rowgate.Proofs.Passage
import Rowgate.Proofs.Query.Accepted
import Rowgate.Proofs.Query.Item
import Rowgate.Proofs.Query.Kept
import Rowgate.Proofs.Query.Matched
import Rowgate.Proofs.Query.Survivors
import Rowgate.Proofs.Replay
import Rowgate.Proofs.Resolution
import Rowgate.Proofs.Result
import Rowgate.Proofs.Run
import Rowgate.Proofs.Savepoint
import Rowgate.Proofs.Scene
import Rowgate.Proofs.Sink
import Rowgate.Proofs.Sql.Builder
import Rowgate.Proofs.Sql.Condition
import Rowgate.Proofs.Sql.Lexeme
import Rowgate.Proofs.Sql.Like
import Rowgate.Proofs.Sql.Name
import Rowgate.Proofs.Sql.Numeral
import Rowgate.Proofs.Sql.Piece
import Rowgate.Proofs.Sql.Reads
import Rowgate.Proofs.Sql.Recovery
import Rowgate.Proofs.Sql.Shape
import Rowgate.Proofs.Sql.Skipped
import Rowgate.Proofs.Sql.Statement
import Rowgate.Proofs.Sql.Token
import Rowgate.Proofs.Statement.FirstKeys
import Rowgate.Proofs.Statement.Insert
import Rowgate.Proofs.Statement.Key
import Rowgate.Proofs.Statement.Projection
import Rowgate.Proofs.Statement.Update
import Rowgate.Proofs.Text
import Rowgate.Proofs.Transaction
import Rowgate.Proofs.Undoing
import Rowgate.Proofs.Uuid
import Rowgate.Proofs.Value.Json
import Rowgate.Proofs.Value.Reread
import Rowgate.Query.Condition
import Rowgate.Query.Group
import Rowgate.Query.Operator
import Rowgate.Response
import Rowgate.ResponseCode
import Rowgate.Script.Catalog
import Rowgate.Script.Connection
import Rowgate.Script.Direct
import Rowgate.Script.Reply
import Rowgate.Script.Scene
import Rowgate.Script.Wire
import Rowgate.Span
import Rowgate.Sql.Literal
import Rowgate.Statement.Basic
import Rowgate.Statement.Delete
import Rowgate.Statement.Insert
import Rowgate.Statement.Select
import Rowgate.Statement.Update
import Rowgate.Text.Blank
import Rowgate.Text.Case
import Rowgate.Text.Category
import Rowgate.Text.Composed
import Rowgate.Text.Decomposition
import Rowgate.Text.Direction
import Rowgate.Text.Hex
import Rowgate.Text.Hidden
import Rowgate.Text.Joining
import Rowgate.Text.Quoted
import Rowgate.Text.Shown
import Rowgate.Text.Split
import Rowgate.Text.Table
import Rowgate.Text.Utf8
import Rowgate.Text.Whole
import Rowgate.Toml.Basic
import Rowgate.Toml.Decode
import Rowgate.Toml.Quoted
import Rowgate.Toml.Reader
import Rowgate.Toml.Scalar
import Rowgate.Toml.Tree
import Rowgate.Transaction
import Rowgate.Uuid
import Rowgate.Value
import Rowgate.Value.Json
import Rowgate.World
