import OneTable.Session.Request
import OneTable.Session.Start
import OneTable.Settings.Document
import OneTable.Settings.Variables
import OneTable.Registry
import OneTable.Wire.Value
import OneTable.Wire.Fault
import OneTable.Json.Reader
import OneTable.Proofs.Sql.InsertReader
import OneTable.Proofs.Sql.Slots
import OneTable.Proofs.Sql.WriteShape
import OneTable.Proofs.Sql.InList
import OneTable.Proofs.Sql.Regions
import OneTable.Proofs.Sql.Guards
import OneTable.Proofs.Session.Plan
import OneTable.Proofs.Session.Contacts
import OneTable.Proofs.Session.Logging
import OneTable.Proofs.Session.Caching
import OneTable.Proofs.Session.Introspection
import OneTable.Proofs.Sql.WhereReader
import OneTable.Proofs.Session.Failures
import OneTable.Proofs.Url.WrittenForm
import OneTable.Proofs.Settings.UrlRoundTrip
import OneTable.Proofs.Options.Cut
import OneTable.Proofs.Sql.OneStatement
import OneTable.Proofs.Session.CutText
import OneTable.Proofs.Options.Limit
import OneTable.Proofs.Session.OneRow
import OneTable.Proofs.Session.WholeTable
import OneTable.Proofs.Registry.ConnectionId
import OneTable.Proofs.Session.Names
import OneTable.Proofs.Registry.Sharing
import OneTable.Proofs.Session.Grouping
import OneTable.Proofs.Sql.UpdateReader
import OneTable.Proofs.Condition.Numbers
import OneTable.Proofs.Number.Reading
import OneTable.Proofs.RowIndex.Keys
import OneTable.Proofs.RowIndex.Positions
import OneTable.Proofs.Statement.Beginning
import OneTable.Proofs.Statement.FirstWord
import OneTable.Proofs.Statement.BlockComment
import OneTable.Proofs.Options.Arrangement
import OneTable.Proofs.Row.Integers
import OneTable.Proofs.Column.DeclaredType
import OneTable.Proofs.Session.Counting
import OneTable.Proofs.Sql.IncrementReader
import OneTable.Proofs.Options.OrderedColumns
import OneTable.Proofs.Options.CompiledOrder
import OneTable.Proofs.Row.Flags
import OneTable.Proofs.Settings.Variables
import OneTable.Proofs.Settings.Document
import OneTable.Proofs.Settings.Expansion
import OneTable.Proofs.Toml.Keys
import OneTable.Proofs.Wire.Moments
import OneTable.Proofs.Value.Documents
import OneTable.Proofs.Sql.Delimiting
import OneTable.Proofs.Text.Truncation
