import DocumentSearch.Session.Attribute

/-!
# Steps on results and on values of the domain

Pages, coordinates, aggregations and the settings of a dialect can be asked for other forms of
themselves, and an aggregation that is kept apart can be made into one on a given builder.
-/
namespace DocumentSearch.Session

open Signature

def entityRequests (type : String) (fields : List (String × Value)) :
    Table String (Signature Value (Except Error Value)) :=
  if type = "PagedResponse" then [("to_dict", return .ok (.table fields))]
  else if type = "GrammarConfig" then
    [("index_name", do
      let name ← required "name"
      let suffix := Record.valueOf fields "index_suffix"
      let pattern := Record.valueOf fields "date_format"
      return do return .str (← Dialect.indexName ⟨suffix, pattern, []⟩ name))]
  else []

def valueRequests : Value → Table String (Signature Value (Except Error Value))
  | .entity type fields => entityRequests type fields
  | .point p =>
    [("to_es_format", return .ok (.ofPoint p)), ("to_string", return .ok (.str p.text))]
  | .bounds b => [("to_es_format", return .ok (Value.location (.bounds b)))]
  | .aggregation a =>
    [("field", do
      match ← withDefault "name" (.str "field") with
      | .str name => return a.argument name
      | _ => throw .illTyped)]
  | _ => []

def onValue (s : Session) (v : Value) (method : String) (args : Arguments Argument) : Attempt :=
  match Table.find? (valueRequests v) method with
  | some signature => s.reading (ofValues signature) args s.display
  | none => s.refuse (.misuse .illTyped)

/-- Fills a given builder with the aggregations of a preset. -/
def fillPreset (s : Session) (calls : List FluentCall) (ref : Ref)
    (gain : Except Error Value) : Attempt :=
  match FluentCall.performAll s.store ref calls with
  | (.error e, store) => (s.withStore store).refuse e
  | (.ok (), store) => (s.withStore store).display gain

def onPreset (s : Session) (key type args : Value) (calls : List FluentCall) (method : String)
    (given : Arguments Argument) : Attempt :=
  let query : Signature Value Ref := do builderOf (← required "query")
  if method = "to_node" then
    s.reading (ofValues query) given fun ref =>
      s.fillPreset calls ref ((Aggregation.make key type args (some ref)).map Value.aggregation)
  else if method = "sub_aggregations" then
    s.reading (ofValues query) given fun ref => s.fillPreset calls ref (.ok (.builder ref))
  else s.refuse (.misuse .illTyped)

end DocumentSearch.Session
