import DocumentSearch.Session.Basic

/-!
# Steps on connections, indices and cursors

A connection sends requests as they are given and opens cursors; the administration of indices works
through the same client; a cursor gives its items one by one or all at once.
-/
namespace DocumentSearch.Session

open Signature

def connected (s : Session) (f : Connection → Attempt) : Attempt :=
  match s.workspace.line with
  | some c => f c
  | none => s.refuse (.misuse .illTyped)

def requestParameters : Signature Value (Value × Value) := do
  return (← required "params", ← withDefault "bindings" .null)

def sending (s : Session) (args : Arguments Argument)
    (send : Connection → Value → Value → Except Error Value × Connection) : Attempt :=
  s.reading (ofValues requestParameters) args fun (params, bindings) =>
    s.connected fun c =>
      let (result, c) := send c params bindings
      s.exchanged id (result, some c)

def plainRequests : List String := ["update", "update_by_query", "delete", "delete_by_query"]

def changing (s : Session) (args : Arguments Argument) (change : Connection → Connection) :
    Attempt :=
  s.reading (pure ()) args fun _ => s.connected fun c => (.ok .done, s.withLine (some (change c)))

def scrollParameters : Signature Value Scroll := do
  let id ← required "scroll_id"
  let timeout ← withDefault "scroll_timeout" .null
  let limit ← withDefault "limit" (.int 0)
  return .fresh id timeout limit

/-- A request that was made elsewhere, with the time that it took. -/
def loggedParameters : Signature Value (Value × Value) := do
  let query ← required "query"
  let bindings ← required "bindings"
  let _ ← required "time_ms"
  return (query, bindings)

/-- An entry of the log; the time itself is not shown. -/
def loggedValue (entry : LogEntry) : Value :=
  .map [("query", entry.query), ("bindings", entry.bindings), ("timed", .bool true)]

def onConnection (s : Session) (method : String) (args : Arguments Argument) : Attempt :=
  if method = "select" then s.sending args Connection.select
  else if method = "insert" then s.sending args Connection.insert
  else if plainRequests.contains method then s.sending args (fun c => c.run method)
  else if method = "clear_scroll" then
    s.reading (ofValues (required "scroll_id")) args fun id =>
      s.connected fun c =>
        let (result, c) := c.clearScroll id
        s.exchanged (fun _ => .null) (result, some c)
  else if method = "cursor" then
    s.reading (ofValues (required "params")) args fun params =>
      s.addCursor (.hits (.fresh params))
  else if method = "scroll" then
    s.reading (ofValues scrollParameters) args fun scroll => s.addCursor (.scroll scroll)
  else if method = "query" then
    s.reading (pure ()) args fun _ => s.addBuilder (.blank "id")
  else if method = "table" then
    s.reading (ofValues (required "index")) args fun index =>
      s.addBuilder { Builder.blank "id" with index := index }
  else if method = "enable_query_log" then s.changing args Connection.enableLog
  else if method = "disable_query_log" then s.changing args Connection.disableLog
  else if method = "flush_query_log" then s.changing args Connection.flushLog
  else if method = "log_query" then
    s.reading (ofValues loggedParameters) args fun (query, bindings) =>
      s.connected fun c => (.ok .done, s.withLine (some (c.logged query bindings)))
  else if method = "get_query_log" then
    s.reading (pure ()) args fun _ => s.connected fun c =>
      s.display (.ok (.list (c.log.map loggedValue)))
  else if method = "close" ∨ method = "with" then s.changing args Connection.close
  else s.refuse (.misuse .illTyped)

/-- What an administration does, with the value it gives. -/
abbrev AdminStep := Admin → Except Error Value × Admin

def admin {α : Type} (shown : α → Value) (f : Admin → Admin.Outcome α) : AdminStep := fun a =>
  let (result, a) := f a
  (result.map shown, a)

def adminSteps : Table String (Signature Value AdminStep) :=
  [("resolve", do
      let name ← required "name"
      return fun a => ((Admin.resolve a.suffix name).map Value.str, a)),
    ("create_index", do
      let index ← required "index_name"
      let mappings ← withDefault "mappings" .null
      let settings ← withDefault "settings" .null
      return admin Value.bool (·.createIndex index mappings settings)),
    ("delete_index", do
      let index ← required "index_name"
      return admin Value.bool (·.deleteIndex index)),
    ("index_exists", do
      let index ← required "index_name"
      return admin Value.bool (·.indexExists index)),
    ("put_mapping", do
      let index ← required "index_name"
      let mappings ← required "mappings"
      return admin Value.bool (·.putMapping index mappings)),
    ("list_indices", do
      let pattern ← withDefault "pattern" (.str "*")
      return admin (fun rows => .list (rows.map IndexInfo.value)) (·.listIndices pattern)),
    ("create_alias", do
      let index ← required "index_name"
      let name ← required "alias_name"
      return admin Value.bool (·.createAlias index name)),
    ("alias_exists", do
      let name ← required "alias_name"
      let index ← withDefault "index_name" .null
      return admin Value.bool (·.aliasExists name index)),
    ("get_alias_indices", do
      let name ← required "alias_name"
      return admin Value.list (·.aliasIndices name)),
    ("update_aliases", do
      let actions ← required "actions"
      return admin Value.bool (·.updateAliases actions)),
    ("swap_alias", do
      let name ← required "alias_name"
      let newIndex ← required "new_index"
      let oldIndex ← withDefault "old_index" .null
      return admin Value.bool (·.swapAlias name newIndex oldIndex)),
    ("list_aliases", do
      let pattern ← withDefault "pattern" (.str "*")
      return admin (fun rows => .list (rows.map AliasInfo.value)) (·.listAliases pattern))]

/-- The administration works through the client of the connection, under the suffix of the
dialect. -/
def onAdmin (s : Session) (method : String) (args : Arguments Argument) : Attempt :=
  match adminSteps.find? method with
  | none => s.refuse (.misuse .illTyped)
  | some signature =>
    s.reading (ofValues signature) args fun step =>
      s.connected fun c =>
        let (result, a) := step (.opened s.dialect.suffix c.client)
        s.exchanged id (result, some { c with client := a.client })

def onCursor (s : Session) (place : Nat) (method : String) (args : Arguments Argument) : Attempt :=
  match s.cursors[place]? with
  | none => s.refuse (.misuse .illTyped)
  | some cursor =>
    let settled (cursor : OpenCursor) (line : Line) : Session :=
      { s.withLine line with cursors := s.cursors.set place cursor }
    s.reading (pure ()) args fun _ =>
      if method = "next" then
        match cursor.next s.dialect s.store s.workspace.line with
        | (.error e, cursor, line) => (.error e, settled cursor line)
        | (.ok none, cursor, line) => (.ok ⟨.stop, none⟩, settled cursor line)
        | (.ok (some v), cursor, line) =>
          (.ok ⟨.item v, some (.value v)⟩, settled cursor line)
      else if method = "list" then
        let (result, cursor, line) :=
          exhaust (fun cursor line => cursor.next s.dialect s.store line) s.hitBound cursor
            s.workspace.line
        (result.map (fun items => .ofValue (.list items)), settled cursor line)
      else if method = "close" then
        let (result, cursor, line) := cursor.close s.workspace.line
        (result.map (fun _ => .done), settled cursor line)
      else s.refuse (.misuse .illTyped)

end DocumentSearch.Session
