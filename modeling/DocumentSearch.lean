import DocumentSearch.Session.Run
import DocumentSearch.Proofs.Matching.ByQuery
import DocumentSearch.Proofs.Cursor.Reading
import DocumentSearch.Proofs.Cursor.Release
import DocumentSearch.Proofs.Write.Removal
import DocumentSearch.Proofs.Paging.Pages
import DocumentSearch.Proofs.Bulk.Item
import DocumentSearch.Proofs.Alias.Swap
import DocumentSearch.Proofs.Bulk.Encoding
import DocumentSearch.Proofs.Bulk.Reserved
import DocumentSearch.Proofs.Naming.Run
import DocumentSearch.Proofs.Matching.Contribution
import DocumentSearch.Proofs.Fluent.Named
import DocumentSearch.Proofs.Execution.Unsent
import DocumentSearch.Proofs.Cursor.Agreement
import DocumentSearch.Proofs.Bulk.Reread
import DocumentSearch.Proofs.Aggregation.Keys
import DocumentSearch.Proofs.Heap.Circle
import DocumentSearch.Proofs.Object.Apart
import DocumentSearch.Proofs.Matching.Layout
import DocumentSearch.Proofs.Traffic.Station
import DocumentSearch.Proofs.Traffic.Timeout
import DocumentSearch.Proofs.Traffic.Log
import DocumentSearch.Proofs.Traffic.Cause
import DocumentSearch.Proofs.Traffic.Acts
import DocumentSearch.Proofs.Traffic.Absence
import DocumentSearch.Proofs.Traffic.Verdict
import DocumentSearch.Proofs.Fluent.Rehoming
import DocumentSearch.Proofs.Heap.Bare
import DocumentSearch.Proofs.Matching.Parentheses
import DocumentSearch.Proofs.Fluent.Typed
import DocumentSearch.Proofs.Matching.Fault
import DocumentSearch.Proofs.Matching.Negated
import DocumentSearch.Proofs.Calendar.Stamp
import DocumentSearch.Proofs.Clause.Form
import DocumentSearch.Proofs.Clause.Asked
import DocumentSearch.Proofs.Clause.Carried
import DocumentSearch.Proofs.Clause.Weights
import DocumentSearch.Proofs.Clause.Dated
import DocumentSearch.Proofs.Clause.Spelled
import DocumentSearch.Proofs.Clause.Undated
import DocumentSearch.Proofs.Matching.Opposed
import DocumentSearch.Proofs.Fragment.Monoid
import DocumentSearch.Proofs.Calendar.Chronology
import DocumentSearch.Proofs.Calendar.Reread
import DocumentSearch.Proofs.Clause.Day
import DocumentSearch.Proofs.Text.Line
import DocumentSearch.Proofs.Connection.Checked
import DocumentSearch.Proofs.Bulk.Account
import DocumentSearch.Proofs.Reply.Json
import DocumentSearch.Proofs.Text.Unbroken
import DocumentSearch.Proofs.Bulk.Diagnosis
import DocumentSearch.Proofs.Alias.Rollback
import DocumentSearch.Proofs.Paging.Count
import DocumentSearch.Proofs.Fluent.Bounds
import DocumentSearch.Proofs.Reply.Hits
import DocumentSearch.Proofs.Calendar.Lexicographic
import DocumentSearch.Proofs.Text.Lower
import DocumentSearch.Proofs.Text.SnakeCase
