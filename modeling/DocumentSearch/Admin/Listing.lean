import DocumentSearch.Value.Access
import DocumentSearch.Value.Number

/-!
# Rows of listings

Listings of indices and of aliases give one row for each; fields that a row lacks are empty.
-/
namespace DocumentSearch

structure IndexInfo where
  name : Value
  health : Value
  status : Value
  docsCount : Int
  storeSize : Value

namespace IndexInfo

/-- A number of documents may be written as text. -/
def ofRow (row : Value) : Except Misuse IndexInfo := do
  let count ← ((← row.get "docs.count" .null).orElse (.int 0)).whole
  return {
    name := ← row.get "index" (.str "")
    health := (← row.get "health" (.str "")).orElse (.str "")
    status := (← row.get "status" (.str "")).orElse (.str "")
    docsCount := count
    storeSize := (← row.get "store.size" (.str "")).orElse (.str "") }

def value (i : IndexInfo) : Value :=
  .entity "IndexInfo" [("name", i.name), ("health", i.health), ("status", i.status),
    ("docs_count", .int i.docsCount), ("store_size", i.storeSize)]

end IndexInfo

structure AliasInfo where
  name : Value
  index : Value
  isWriteIndex : Bool

namespace AliasInfo

def ofRow (row : Value) : Except Misuse AliasInfo := do
  let flag ← row.get "is_write_index" .null
  return {
    name := ← row.get "alias" (.str "")
    index := ← row.get "index" (.str "")
    isWriteIndex := flag == "true" }

def value (i : AliasInfo) : Value :=
  .entity "AliasInfo" [("alias", i.name), ("index", i.index),
    ("is_write_index", .bool i.isWriteIndex)]

end AliasInfo

end DocumentSearch
