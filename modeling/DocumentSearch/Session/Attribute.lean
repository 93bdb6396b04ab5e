import DocumentSearch.Session.Basic

/-!
# Attributes

What objects have attributes, and what they are. The clauses, aggregations, orders and options of a
builder are given as views, which go on showing what the builder has.
-/
namespace DocumentSearch

namespace Builder

def contents (b : Builder) : Part → Value
  | .wheres => .list (b.wheres.map Value.clause)
  | .filters => .list (b.filters.map Value.clause)
  | .postFilters => .list (b.postFilters.map Value.clause)
  | .aggregations => .list (b.aggregations.map Value.aggregation)
  | .orders => .list (b.orders.map Value.order)
  | .options => .map b.options

def lastDocuments (b : Builder) : Value :=
  (b.cache.map (fun c => Value.list c.documents)).getD .null

/-- The page that the last documents belong to. -/
def lastPage (b : Builder) : Value :=
  (b.cache.map (fun c => Value.tuple [.ofNat c.offset, .ofOption c.limit])).getD .null

end Builder

namespace Session

def viewOf (store : Store) (ref : Ref) (part : Part) : Value :=
  .view part ref ((store.get ref).contents part)

def connectionOf (line : Line) : Value :=
  if line.isSome then .handle .connection else .null

def builderAttributes (w : Workspace) (ref : Ref) : Table String Value :=
  let b := w.store.get ref
  let view := viewOf w.store ref
  [("index", b.index), ("columns", .list b.columns), ("wheres", view .wheres),
    ("filters", view .filters), ("post_filters", view .postFilters),
    ("aggregations", view .aggregations), ("orders", view .orders), ("options", view .options),
    ("limit_value", .ofOption b.limit), ("offset_value", .ofNat b.offset),
    ("include_inner_hits", .bool b.expandInnerHits), ("key_name", b.keyName),
    ("_routing", b.routing), ("_parent_id", b.parentId), ("_results", b.lastDocuments),
    ("_results_key", b.lastPage), ("connection", connectionOf w.line),
    ("grammar", .handle .dialect), ("processor", .handle (.summary ref))]

def dialectAttributes (d : Dialect) : Table String Value :=
  [("config", .entity "GrammarConfig"
    [("index_suffix", d.suffix), ("date_format", d.datePattern)])]

def summaryAttributes (s : Summary) : Table String Value :=
  [("has_response", .bool s.hasReply), ("_aggregations", s.aggregations),
    ("_raw_response", if s.hasReply then s.rawReply else .null)]

def connectionAttributes (d : Dialect) (c : Connection) : Table String Value :=
  [("config", c.config.value), ("index_suffix", d.suffix), ("grammar", .handle .dialect),
    ("indices", .handle .admin)]

def classAttributes (line : Line) (c : RecordClass) : Table String Value :=
  [("search_index", (c.searchIndex.map Value.str).getD .null),
    ("search_type", (c.searchType.map Value.str).getD .null),
    ("index_as_child_documents", .tuple (c.childAttributes.map Value.str)),
    ("search_connection", if c.bound then connectionOf line else .null)]

def handleAttributes (s : Session) : Handle → Table String Value
  | .dialect => dialectAttributes s.dialect
  | .summary ref => summaryAttributes (s.store.get ref).summary
  | .connection => (s.workspace.line.map (connectionAttributes s.dialect)).getD []
  | .admin => [("index_suffix", s.dialect.suffix.orElse "")]
  | .recordClass c => classAttributes s.workspace.line c
  | .cursor _ => []

def attributes (s : Session) : Value → Table String Value
  | .builder ref => builderAttributes s.workspace ref
  | .handle h => s.handleAttributes h
  | .clause c => ("type", .str c.kind.name) :: ("is_or", .bool c.isOr) :: c.fields
  | .order o => o.fields
  | .aggregation a => ("has_sub_aggregations", .bool (a.hasSub s.store)) :: a.fields
  | .record c attributes => attributes ++ classAttributes s.workspace.line c
  | .entity _ fields => fields
  | .point p => [("lat", .ofNumber p.lat), ("lon", .ofNumber p.lon)]
  | .bounds b => [("top_left", .point b.topLeft), ("bottom_right", .point b.bottomRight)]
  | .unit u => [("name", .str u.name), ("value", .str u.text)]
  | .response body => [("body", body)]
  | _ => []

def attributeOf (s : Session) (v name : Value) : Except Error Value :=
  match name.string?.bind (s.attributes v).find? with
  | some v => .ok v
  | none => .error (.misuse .illTyped)

end Session

end DocumentSearch
