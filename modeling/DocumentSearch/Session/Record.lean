import DocumentSearch.Session.Basic

/-!
# Steps on records

Records and their classes are asked for their documents and indices, and write and remove themselves
through the connection that they are given or that their class has.
-/
namespace DocumentSearch.Session

open Signature

/-- A connection that may be given; the only one there is to give is the session's. -/
def connectionParameter : Signature Value Bool := do
  givesConnection (← withDefault "connection" .null)

def givenLine (s : Session) (given : Bool) : Line := if given then s.workspace.line else none

def onClass (s : Session) (c : RecordClass) (method : String) (args : Arguments Argument) :
    Attempt :=
  if method = "get_search_index" then
    s.reading (pure ()) args fun _ => s.display (.ok (.str c.index))
  else if method = "get_search_type" then
    s.reading (pure ()) args fun _ => s.display (.ok (.str c.type))
  else if method = "new_search_query" then
    s.reading (ofValues connectionParameter) args fun given =>
      match c.connection (s.givenLine given) s.workspace.line with
      | .ok _ => s.addBuilder c.newQuery
      | .error e => s.refuse e
  else if method = "resolve_search_connection" then
    s.reading (ofValues (withDefault "connection" .null)) args fun given =>
      if given.truthy then s.display (.ok given)
      else
        match c.connection none s.workspace.line with
        | .ok _ => s.display (.ok (.handle .connection))
        | .error e => s.refuse e
  else s.refuse (.misuse .illTyped)

/-- What a record can be asked for, beyond what its class can be asked for. -/
def onRecord (s : Session) (c : RecordClass) (attributes : List (String × Value)) (method : String)
    (args : Arguments Argument) : Attempt :=
  if method = "to_dict" then
    s.reading (pure ()) args fun _ => s.display (.ok (.map (c.exported attributes)))
  else if method = "to_search_dict" then
    s.reading (pure ()) args fun _ => s.display do return .map (← Record.document c attributes)
  else if method = "add_to_index" ∨ method = "update_index" then
    s.reading (ofValues connectionParameter) args fun given =>
      s.exchanged Value.bool
        (Record.add s.dialect c attributes (s.givenLine given) s.workspace.line)
  else if method = "remove_from_index" then
    s.reading (ofValues connectionParameter) args fun given =>
      s.exchanged Value.bool
        (Record.remove s.dialect s.store c attributes (s.givenLine given) s.workspace.line)
  else s.onClass c method args

def indexRecords (s : Session) (args : Arguments Argument) : Attempt :=
  s.reading (ofValues (do return (← required "records", ← connectionParameter))) args
    fun (records, given) =>
      if !records.truthy then s.display (.ok (.bool true))
      else
        match records.items with
        | .error m => s.refuse (.misuse m)
        | .ok records =>
          s.exchanged Value.bool
            (Record.addAll s.dialect records (s.givenLine given) s.workspace.line)

end DocumentSearch.Session
