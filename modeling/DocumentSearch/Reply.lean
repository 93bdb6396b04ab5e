import DocumentSearch.Builder
import DocumentSearch.Record.Class

/-!
# Replies to searches

A reply is read as a table. Its hits become documents, each with the id of its hit, and what else it
says is kept as a summary.
-/
namespace DocumentSearch

namespace Value

/-- A value with named fields as a table. -/
def table (fields : List (String × Value)) : Value := map (fields.map (fun p => (str p.1, p.2)))

/-- The body of a record, if it has one that is a table. -/
def recordBody? (attributes : List (String × Value)) : Option Value :=
  ((Table.find? attributes "body").bind map?).map map

/-- The table behind a reply, a reply object or an object that can be turned into one. -/
def reply (v : Value) : Except Error Value :=
  match v.seen with
  | map entries => .ok (map entries)
  | response (map entries) => .ok (map entries)
  | convertible target => .ok target
  | record cls attributes =>
    .ok ((recordBody? attributes).getD (map (cls.exported attributes)))
  | entity "PagedResponse" fields => .ok (table fields)
  | handle (.recordClass _) => .error (.misuse .illTyped)
  | v => .error (.unsupportedResponse v)

/-- The hits of a reply as they are given; a reply may lack them. -/
def batch (v : Value) : Except Misuse Value := do
  (← v.get "hits" (map [])).get "hits" (list [])

def hits (v : Value) : Except Misuse (List Value) := do (← v.batch).items

end Value

namespace Reply

/-- An inner hit's own id stands first, and its source may write over it. -/
def innerDocument (hit : Value) : Except Misuse Value := do
  let hit ← hit.entries
  let source ← ((Value.under hit "_source").orElse (.map [])).entries
  return .map (Table.update [("_id", Value.under hit "_id")] source)

def innerGroup (group : Value × Value) : Except Misuse (Value × Value) := do
  let hits ← group.2.hits
  return (group.1, .list (← hits.mapM innerDocument))

def parentEntry (hit : Entries) : Entries :=
  let parent := Value.under hit "_parent"
  if parent.truthy then [("_parent", parent)] else []

def innerHitsEntry (expand : Bool) (hit : Entries) : Except Misuse Entries := do
  let innerHits := Value.under hit "inner_hits"
  if expand && innerHits.truthy then
    return [("inner_hits", .map (← (← innerHits.entries).mapM innerGroup))]
  else return []

/-- A document is the source of its hit with the id, the parent if there is one, and the inner hits
if they are asked for. -/
def document (expandInnerHits : Bool) (hit : Value) : Except Misuse Value := do
  let hit ← hit.entries
  let source ← ((Value.under hit "_source").orElse (.map [])).toEntries
  let document := (source.insert "_id" (Value.under hit "_id")).update (parentEntry hit)
  return .map (document.update (← innerHitsEntry expandInnerHits hit))

end Reply

namespace Summary

def ofReply (entries : Entries) : Summary :=
  ⟨some entries, (Value.under entries "aggregations").orElse (.map [])⟩

def hasReply (s : Summary) : Bool := s.raw.isSome

def entries (s : Summary) : Entries := s.raw.getD []

def rawReply (s : Summary) : Value := .map s.entries

/-- The number of hits, given as such or together with how exact it is. -/
def total (s : Summary) : Except Misuse Value := do
  let hits := (s.entries.find? "hits").getD (.map [])
  let total ← hits.get "total" (.int 0)
  match total.map? with
  | some info => return (Table.find? info "value").getD (.int 0)
  | none => return total

def took (s : Summary) : Value := Value.under s.entries "took"

end Summary

namespace Reply

/-- The documents of a reply, and the summary that it leaves even if a hit cannot be read. -/
def process (expandInnerHits : Bool) (response : Value) (earlier : Summary) :
    Except Error (List Value) × Summary :=
  match response.reply with
  | .error e => (.error e, earlier)
  | .ok reply =>
    match reply with
    | .map entries =>
      let documents := do (← reply.hits).mapM (document expandInnerHits)
      (Misuse.lift documents, .ofReply entries)
    | _ => (.error (.misuse .illTyped), earlier)

end Reply

end DocumentSearch
