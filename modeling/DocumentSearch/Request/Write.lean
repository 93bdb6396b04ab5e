import DocumentSearch.Request.Search

/-!
# Write requests

Documents are inserted in bulk, updated or deleted one by one under their id, and updated or deleted
wherever a query matches.
-/
namespace DocumentSearch

namespace Dialect

/-- Keys of a document that say where it goes and are not part of it. -/
def reservedKeys : List Value := ["id", "_id", "_routing", "_parent", "child_documents"]

def documentId (document : Entries) : Value :=
  match document.find? "id" with
  | some id => id
  | none => Value.under document "_id"

/-- The action and the document of a child, which names its parent. -/
def childActions (index : String) (parent child : Value) : Except Error (List Value) := do
  if parent.isNull then throw (.invalidQuery .childrenWithoutParentId)
  if !(← child.holds "id") then throw (.invalidQuery (.childWithoutId parent))
  let child ← child.entries
  let document ← ((Value.under child "document").orElse (.map [])).toEntries
  return [
    .map [("index", .map [("_index", index), ("_id", Value.under child "id"), ("parent", parent)])],
    .map document]

def entryUnlessFalsy (key v : Value) : Entries := entryIf v.truthy key v

/-- A document's own routing comes before the builder's, the builder's parent before the
document's. -/
def documentActions (b : Builder) (index : String) (document : Entries) : List Value :=
  let id := documentId document
  let action : Entries := ("_index", .str index) :: (entryIf (!id.isNull) "_id" id ++
    entryUnlessFalsy "routing" ((Value.under document "_routing").orElse b.routing) ++
    entryUnlessFalsy "parent" (b.parentId.orElse (Value.under document "_parent")))
  [.map [("index", .map action)], .map (document.without reservedKeys)]

/-- The children of a document come before the document itself. -/
def bulkDocument (b : Builder) (index : String) (given : Value) : Except Error (List Value) := do
  match given.map? with
  | some document =>
    let children ← ((Value.under document "child_documents").orElse (.list [])).items
    let inner ← children.mapM (childActions index (documentId document))
    return inner.flatten ++ documentActions b index document
  | none => throw (.invalidQuery (.notADocument given))

def insertRequest (d : Dialect) (b : Builder) (documents : List Value) : Except Error Entries := do
  let index ← d.indexName b.index
  let actions ← documents.mapM (bulkDocument b index)
  return [("body", .list actions.flatten)]

/-- The id that the first clause of the query compares with. -/
def keyOf (b : Builder) : Except Error String :=
  match b.wheres with
  | [] => .error (.invalidQuery .noKeyClause)
  | first :: _ =>
    match first.condition with
    | .basic _ _ value => ofValue first.kind value
    | .date _ _ value => ofValue first.kind value
    | _ => .error (.invalidQuery (.notKeyClause first.kind))
where
  ofValue (kind : ClauseKind) (value : Value) : Except Error String :=
    if value.isNull then .error (.invalidQuery (.notKeyClause kind)) else .ok value.text

/-- Children are kept where their parent is. -/
def routingEntry (b : Builder) : Entries := entryUnlessFalsy "routing" (b.routing.orElse b.parentId)

def deleteRequest (d : Dialect) (b : Builder) : Except Error Entries := do
  let index ← d.indexName b.index
  let id ← keyOf b
  return ("index", .str index) :: ("id", .str id) :: routingEntry b

def updateRequest (d : Dialect) (b : Builder) (values : Entries) : Except Error Entries := do
  let index ← d.indexName b.index
  let id ← keyOf b
  let document ← d.convertValues (values.without reservedKeys)
  return ("index", .str index) :: ("id", .str id) :: ("body", .map [("doc", .map document)]) ::
    routingEntry b

/-- An option of a builder under its own name, unless it is null. -/
def optionEntry (b : Builder) (name : String) : Entries :=
  let option := Value.under b.options name
  entryIf (!option.isNull) (.str name) option

/-- A request over all documents that the query of a search matches; `more` is added to its body. -/
def byQueryRequest (d : Dialect) (store : Store) (b : Builder) (more : Entries) :
    Except Error Entries := do
  let search ← d.searchRequest store b
  let query := (search.body.find? "query").getD (.map Fragment.matchAll)
  return ("index", .str search.index) :: ("body", .map (("query", query) :: more)) ::
    (optionEntry b "refresh" ++ optionEntry b "conflicts" ++ routingEntry b)

def deleteByQueryRequest (d : Dialect) (store : Store) (b : Builder) : Except Error Entries :=
  d.byQueryRequest store b []

def updateByQueryRequest (d : Dialect) (store : Store) (b : Builder) (script params : Value) :
    Except Error Entries :=
  d.byQueryRequest store b
    [("script", .map [("source", script), ("params", params.orElse (.map []))])]

end Dialect

end DocumentSearch
