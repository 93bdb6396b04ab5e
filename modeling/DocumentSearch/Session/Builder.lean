import DocumentSearch.Session.Attribute

/-!
# Steps on builders, requests and replies

A builder is acted upon by name; its dialect writes out requests for any builder, and its summary
reads replies.
-/
namespace DocumentSearch.Session

open Signature

def actOn (s : Session) (ref : Ref) (action : Action) : Attempt :=
  let (result, w) := action.perform s.dialect s.workspace ref
  let s := { s with workspace := w }
  match result with
  | .error e => s.refuse e
  | .ok .self => (.ok (.ofValue (.builder ref)), s)
  | .ok (.builder other) => (.ok (.ofValue (.builder other)), s)
  | .ok (.value v) => (.ok (.ofValue v), s)
  | .ok (.cursor c) => s.addCursor (.documents c)

def onBuilder (s : Session) (ref : Ref) (method : String) (args : Arguments Argument) : Attempt :=
  if method = "dump" then s.reading (pure ()) args fun _ => (.ok ⟨.contents ref, none⟩, s)
  else
    match action? method with
    | some signature => s.reading signature args (s.actOn ref)
    | none => s.refuse (.misuse .illTyped)

def builderParameter : Signature Value Ref := do builderOf (← required "builder")

def writingOut (s : Session) (args : Arguments Argument)
    (signature : Signature Value (Except Error Value)) : Attempt :=
  s.reading (ofValues signature) args s.display

def conditionsTable (c : Conditions) : Value :=
  .map (Bucket.all.map (fun b => (.str b.name, .map (c.part b))))

def innerConditions (s : Session) (ref : Ref) : Except Error Conditions :=
  s.dialect.conditions s.store (s.store.get ref)

/-- What a dialect writes for a builder and further values, by name. -/
def builderRequests (d : Dialect) (store : Store) :
    Table String (Signature Value (Except Error Value)) :=
  [("index_name", do
      let ref ← builderParameter
      return do return .str (← d.indexName (store.get ref).index)),
    ("compile_select", do
      let ref ← builderParameter
      return do return .map (← d.searchRequest store (store.get ref)).toEntries),
    ("compile_insert", do
      let ref ← builderParameter
      let documents ← required "documents"
      return do
        let _ ← d.indexName (store.get ref).index
        return .map (← d.insertRequest (store.get ref) (← documents.items))),
    ("compile_delete", do
      let ref ← builderParameter
      return do return .map (← d.deleteRequest (store.get ref))),
    ("compile_delete_by_query", do
      let ref ← builderParameter
      return do return .map (← d.deleteByQueryRequest store (store.get ref))),
    ("compile_update", do
      let ref ← builderParameter
      let values ← required "values"
      return do
        let _ ← d.indexName (store.get ref).index
        let _ ← Dialect.keyOf (store.get ref)
        return .map (← d.updateRequest (store.get ref) (← values.entries))),
    ("compile_update_by_query", do
      let ref ← builderParameter
      let script ← required "script"
      let params ← withDefault "params" .null
      return do return .map (← d.updateByQueryRequest store (store.get ref) script params)),
    ("compile_wheres", do
      let ref ← builderParameter
      return do return conditionsTable (← d.conditions store (store.get ref))),
    ("compile_aggregations", do
      let ref ← builderParameter
      return do return .map (← d.aggregations store (store.get ref)))]

/-- What a dialect writes for clauses, aggregations and orders by themselves. -/
def partRequests (s : Session) : Table String (Signature Value (Except Error Value)) :=
  [("compile_clause", do
      let c ← clauseOf (← required "clause")
      return do return .map (← s.dialect.clauseFragment s.innerConditions c)),
    ("compile_clauses", do
      let clauses ← clausesOf (← required "clauses")
      return do return .map (← s.dialect.bucketFragment s.innerConditions clauses)),
    ("compile_aggregation", do
      let a ← aggregationOf (← required "node")
      return do return .map (← s.dialect.aggregation s.store a)),
    ("compile_orders", do
      let orders ← ordersOf (← required "orders")
      return do return .list ((← orders.mapM Order.fragment).map Value.map)),
    ("apply_options", do
      let fragment ← required "fragment"
      let options ← required "options"
      return Misuse.lift (Fragment.applyOptions fragment options))]

def onDialect (s : Session) (method : String) (args : Arguments Argument) : Attempt :=
  if method = "forget_clause" then
    s.reading (ofValues (required "type")) args fun kind =>
      match kind.clauseKind with
      | .ok kind => (.ok .done, { s with dialect := s.dialect.forget kind })
      | .error e => s.refuse e
  else
    match Table.find? (builderRequests s.dialect s.store ++ s.partRequests) method with
    | some signature => s.writingOut args signature
    | none => s.refuse (.misuse .illTyped)

/-- Whether what hits are read for asks for inner hits. -/
def expands (s : Session) : Value → Bool
  | .builder ref => (s.store.get ref).expandInnerHits
  | .record _ attributes => (Record.valueOf attributes "include_inner_hits").truthy
  | _ => false

/-- Reads a reply for a builder and keeps what it says for the target. -/
def processReply (s : Session) (target : Ref) : Value × Value → Attempt
  | (builder, response) =>
    let b := s.store.get target
    let (documents, summary) := Reply.process (s.expands builder) response b.summary
    (documents.map (fun documents => .ofValue (.list documents)),
      s.withStore (s.store.set target { b with summary := summary }))

def onSummary (s : Session) (target : Ref) (method : String) (args : Arguments Argument) :
    Attempt :=
  let summary := (s.store.get target).summary
  let look (v : Except Error Value) : Attempt := s.reading (pure ()) args fun _ => s.display v
  if method = "get_total" then look (Misuse.lift summary.total)
  else if method = "get_took" then look (.ok summary.took)
  else if method = "get_aggregation_results" then look (.ok summary.aggregations)
  else if method = "get_raw_response" then look (.ok summary.rawReply)
  else if method = "process_select" then
    s.reading (ofValues (do return (← required "builder", ← required "response"))) args
      (s.processReply target)
  else if method = "document_from_result" then
    s.reading (ofValues (do return (← required "builder", ← required "hit"))) args
      fun (builder, hit) => s.display (Misuse.lift (Reply.document (s.expands builder) hit))
  else s.refuse (.misuse .illTyped)

end DocumentSearch.Session
