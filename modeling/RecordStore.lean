import RecordStore.Client.Collection
import RecordStore.Client.Cursor
import RecordStore.Client.Database
import RecordStore.Client.Description
import RecordStore.Client.Errand
import RecordStore.Client.Error
import RecordStore.Client.Graph
import RecordStore.Client.Handles
import RecordStore.Client.Lock
import RecordStore.Client.Owner
import RecordStore.Client.Program
import RecordStore.Client.Round
import RecordStore.Client.Turn
import RecordStore.Client.World
import RecordStore.Decimal.Binary64
import RecordStore.Decimal.Shortest
import RecordStore.Find.Filters
import RecordStore.Find.Path
import RecordStore.Find.Query
import RecordStore.Find.Sort
import RecordStore.Names
import RecordStore.Pattern.CharClass
import RecordStore.Pattern.Expression
import RecordStore.Pattern.Footprint
import RecordStore.Pattern.Like
import RecordStore.Pattern.Look
import RecordStore.Pattern.Meaning
import RecordStore.Pattern.PropertyName
import RecordStore.Pattern.Regex
import RecordStore.Pattern.Tree
import RecordStore.Pattern.Tree.Parser
import RecordStore.Proofs.Client.Bulk
import RecordStore.Proofs.Client.CursorAccount
import RecordStore.Proofs.Client.CursorInvariant
import RecordStore.Proofs.Client.CursorProtocol
import RecordStore.Proofs.Client.Equality
import RecordStore.Proofs.Client.Exclusion
import RecordStore.Proofs.Client.Failures
import RecordStore.Proofs.Client.LockInvariant
import RecordStore.Proofs.Client.LockNames
import RecordStore.Proofs.Client.LockProtocol
import RecordStore.Proofs.Client.OwnerProtocol
import RecordStore.Proofs.Client.Ownership
import RecordStore.Proofs.Client.Protocol
import RecordStore.Proofs.Client.Reading
import RecordStore.Proofs.Client.RecordLock
import RecordStore.Proofs.Client.RoundInvariant
import RecordStore.Proofs.Client.RoundProtocol
import RecordStore.Proofs.Client.Saving
import RecordStore.Proofs.Client.Searching
import RecordStore.Proofs.Client.Serial
import RecordStore.Proofs.Client.Streaming
import RecordStore.Proofs.Client.Tidy
import RecordStore.Proofs.Client.Turn
import RecordStore.Proofs.Find.Answer
import RecordStore.Proofs.Find.Clauses
import RecordStore.Proofs.Find.Form
import RecordStore.Proofs.Find.Mapping
import RecordStore.Proofs.Find.Parameters
import RecordStore.Proofs.Find.Text
import RecordStore.Proofs.Find.Validity
import RecordStore.Proofs.Pattern.Budget
import RecordStore.Proofs.Pattern.Matching
import RecordStore.Proofs.Pattern.Sequence
import RecordStore.Proofs.Pattern.Wildcard
import RecordStore.Proofs.Query.Ranges
import RecordStore.Proofs.Query.Reading
import RecordStore.Proofs.Query.Shape
import RecordStore.Proofs.Query.Sorting
import RecordStore.Proofs.Record.ReadBack
import RecordStore.Proofs.Record.Samples
import RecordStore.Proofs.Record.Stamp
import RecordStore.Proofs.Record.Written
import RecordStore.Proofs.Store.Atomicity
import RecordStore.Proofs.Store.Cascade
import RecordStore.Proofs.Store.Catalogue
import RecordStore.Proofs.Store.Change
import RecordStore.Proofs.Store.Current
import RecordStore.Proofs.Store.Cursors
import RecordStore.Proofs.Store.Documents
import RecordStore.Proofs.Store.Graphs
import RecordStore.Proofs.Store.History
import RecordStore.Proofs.Store.Keys
import RecordStore.Proofs.Store.Linking
import RecordStore.Proofs.Store.Locks
import RecordStore.Proofs.Store.OpenCursors
import RecordStore.Proofs.Store.Origins
import RecordStore.Proofs.Store.Uniqueness
import RecordStore.Proofs.Store.WellFormed
import RecordStore.Proofs.Table
import RecordStore.Proofs.Text.Placeholders
import RecordStore.Proofs.Text.Split
import RecordStore.Proofs.Value.Order
import RecordStore.Proofs.Value.Same
import RecordStore.Query.Error
import RecordStore.Query.Evaluation
import RecordStore.Query.Operator
import RecordStore.Query.Statement
import RecordStore.Record.Attributes
import RecordStore.Record.Basic
import RecordStore.Record.Document
import RecordStore.Record.Endpoint
import RecordStore.Sample.Comparisons
import RecordStore.Sample.Edges
import RecordStore.Sample.Graphs
import RecordStore.Sample.Raw
import RecordStore.Sample.Setting
import RecordStore.Sample.Vertices
import RecordStore.Sample.View
import RecordStore.Store.Basic
import RecordStore.Store.Catalogue
import RecordStore.Store.Cursors
import RecordStore.Store.Documents
import RecordStore.Store.Error
import RecordStore.Store.Faults
import RecordStore.Store.Graph
import RecordStore.Store.Request
import RecordStore.Table
import RecordStore.Text.Age
import RecordStore.Text.Case
import RecordStore.Text.Category
import RecordStore.Text.CharSet
import RecordStore.Text.Duration
import RecordStore.Text.Letter
import RecordStore.Text.Plural
import RecordStore.Text.Property
import RecordStore.Text.Property.Binary
import RecordStore.Text.Property.Break
import RecordStore.Text.Quoted
import RecordStore.Text.Runs
import RecordStore.Text.Script
import RecordStore.Text.SnakeCase
import RecordStore.Text.Split
import RecordStore.Text.Utf8
import RecordStore.Text.Uuid
import RecordStore.Value.Basic
import RecordStore.Value.Order
import RecordStore.Value.Parser
import RecordStore.Value.Printer
