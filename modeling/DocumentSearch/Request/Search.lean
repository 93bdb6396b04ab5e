import DocumentSearch.Request.Aggregation

/-!
# Search requests

A search names an index and has a body with the columns to return, the query with its filter, a
filter after the aggregations, the aggregations, the orders and the page, each only if it is there.
-/
namespace DocumentSearch

namespace Dialect

/-- A filter is put into the query beside what is there. Alternatives that were required stay so. -/
def attachFilter (query filter : Entries) : Entries :=
  let inner : Entries := ((Value.under query "bool").map?).getD []
  let inner :=
    if inner.has "should" && !inner.has "must" && !inner.has "minimum_should_match"
    then inner.insert "minimum_should_match" (.int 1) else inner
  query.insert "bool" (.map (inner.insert "filter" (.map filter)))

/-- The star, or no column at all, asks for all of them. -/
def sourceOf (columns : List Value) : Value :=
  if columns.isEmpty || columns.contains "*" then .bool true else .list columns

def entryIf (present : Bool) (key value : Value) : Entries := if present then [(key, value)] else []

theorem find?_entryIf (present : Bool) (key other : String) (value : Value) :
    Table.find? (entryIf present key value) other =
      if present && decide (key = other) then some value else none := by
  cases present <;> simp [entryIf, Table.find?_cons]

def limitEntry : Option Number → Entries
  | some limit => [("size", .ofNumber limit)]
  | none => []

def searchBody (d : Dialect) (store : Store) (b : Builder) : Except Error Entries := do
  let parts ← d.conditions store b
  let query := if parts.filter.isEmpty then parts.query else attachFilter parts.query parts.filter
  let aggregations ← if b.aggregations.isEmpty then .ok [] else d.aggregations store b
  let orders ← b.orders.mapM Order.fragment
  return ("_source", sourceOf b.columns) ::
    (entryIf (!query.isEmpty) "query" (.map query) ++
      entryIf (!parts.postFilter.isEmpty) "post_filter" (.map parts.postFilter) ++
      entryIf (!b.aggregations.isEmpty) "aggregations" (.map aggregations) ++
      entryIf (!b.orders.isEmpty) "sort" (.list (orders.map Value.map)) ++
      entryIf (b.offset ≠ 0) "from" (.ofNat b.offset) ++ limitEntry b.limit)

structure SearchRequest where
  index : String
  body : Entries

def SearchRequest.toEntries (r : SearchRequest) : Entries :=
  [("index", .str r.index), ("body", .map r.body)]

/-- The body is written before the index is looked at. -/
def searchRequest (d : Dialect) (store : Store) (b : Builder) : Except Error SearchRequest := do
  let body ← d.searchBody store b
  return ⟨← d.indexName b.index, body⟩

end Dialect

end DocumentSearch
