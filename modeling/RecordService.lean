import RecordService.Config.Load
import RecordService.Http.Service
import RecordService.Proofs.Pipeline.Intent
import RecordService.Proofs.Store.Calls
import RecordService.Sql.Bind
import RecordService.Store.Memory
import RecordService.Proofs.Pipeline.Memory
import RecordService.Proofs.Scope.View
import RecordService.Proofs.Scope.Isolation
import RecordService.Proofs.Config.Check
import RecordService.Proofs.Scope.Rules
import RecordService.Proofs.Scope.Enforcement
import RecordService.Proofs.Scope.Integrity
import RecordService.Proofs.Pipeline.Failure
import RecordService.Proofs.Pipeline.Interleaving
import RecordService.Proofs.Sql.Grammar
import RecordService.Proofs.Sql.Fragment
import RecordService.Proofs.Sql.Reading
import RecordService.Proofs.Sql.Truth
import RecordService.Proofs.Sql.Values
import RecordService.Proofs.Filter.Group
import RecordService.Proofs.Filter.Meaning
import RecordService.Proofs.Sql.Placeholder
import RecordService.Proofs.Filter.Allowed
import RecordService.Proofs.SoftDelete.Mark
import RecordService.Proofs.SoftDelete.Reversal
import RecordService.Proofs.Store.Representation
import RecordService.Proofs.Pipeline.Trace
import RecordService.Proofs.Pipeline.Discipline
import RecordService.Proofs.Text.Uuid
import RecordService.Proofs.Validate.Id
import RecordService.Proofs.Record.Lookup
import RecordService.Proofs.Record.Creation
import RecordService.Proofs.Record.Reachable
import RecordService.Proofs.Number.Double
import RecordService.Proofs.Record.Identity
import RecordService.Proofs.Record.ReadBack
import RecordService.Proofs.Config.WellFormed
import RecordService.Proofs.Json.Decode
import RecordService.Proofs.Config.ReadBack
import RecordService.Proofs.Validate.Rule
import RecordService.Proofs.Record.Obedience
import RecordService.Proofs.Record.Rules
import RecordService.Proofs.Query.Params
import RecordService.Proofs.Query.Pages
import RecordService.Proofs.Store.Alteration
import RecordService.Proofs.Pipeline.Repetition
import RecordService.Proofs.Pipeline.Bulk
import RecordService.Proofs.Pipeline.Batch
import RecordService.Proofs.Text.Utf8
import RecordService.Proofs.Number.Integer
import RecordService.Proofs.Http.Path
import RecordService.Proofs.Http.Address
import RecordService.Proofs.Store.Affected
import RecordService.Proofs.Pipeline.Revision
import RecordService.Proofs.Store.Numbering
import RecordService.Proofs.Validate.Violation
import RecordService.Proofs.Validate.Idempotence
import RecordService.Proofs.Sql.Insertion
import RecordService.Proofs.Sql.Assignment
import RecordService.Proofs.Pipeline.Storing
import RecordService.Proofs.Pipeline.Fate
import RecordService.Proofs.Record.LastWrite
import RecordService.Proofs.Query.Words
import RecordService.Proofs.Number.Numeral
import RecordService.Proofs.Validate.Spelling
import RecordService.Proofs.Store.Separation
import RecordService.Proofs.Regex.Size
import RecordService.Proofs.Store.Like
import RecordService.Proofs.Filter.Normal
import RecordService.Proofs.Sql.Binary
import RecordService.Proofs.Query.Validation
import RecordService.Proofs.Http.Order
import RecordService.Proofs.Store.Compare
import RecordService.Proofs.Store.Order
import RecordService.Proofs.Scope.Insertion
import RecordService.Proofs.Sql.Cast
import RecordService.Proofs.Config.ColumnType
