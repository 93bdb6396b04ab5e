import DocumentSearch.Session.Basic
import DocumentSearch.Proofs.Naming.Run

/-!
# Stations

Everything that is done with a connection: what happens at a desk, requests that are sent as they
are given, cursors over hits and over contexts that are there already, releases, and the switching
of the log. A relation between connections that holds across each request holds across all of it.
-/
namespace DocumentSearch

open Connection

namespace Admin

def methods : List String :=
  ["indices.create", "indices.delete", "indices.exists", "indices.put_mapping", "cat.indices",
    "indices.put_alias", "indices.exists_alias", "indices.get_alias", "indices.update_aliases",
    "cat.aliases"]

def Request.result (a : Admin) : Request → Except Error Value
  | createIndex index mappings settings => (a.createIndex index mappings settings).1.map .bool
  | deleteIndex index => (a.deleteIndex index).1.map .bool
  | indexExists index => (a.indexExists index).1.map .bool
  | putMapping index mappings => (a.putMapping index mappings).1.map .bool
  | listIndices pattern =>
    (a.listIndices pattern).1.map fun rows => .list (rows.map IndexInfo.value)
  | createAlias index name => (a.createAlias index name).1.map .bool
  | aliasExists name index => (a.aliasExists name index).1.map .bool
  | aliasIndices name => (a.aliasIndices name).1.map .list
  | updateAliases actions => (a.updateAliases actions).1.map .bool
  | swapAlias name newIndex oldIndex => (a.swapAlias name newIndex oldIndex).1.map .bool
  | listAliases pattern =>
    (a.listAliases pattern).1.map fun rows => .list (rows.map AliasInfo.value)

/-- An administration that another one has become by asking. -/
structure Asked (a a' : Admin) : Prop where
  server : a'.client.server = a.client.server
  calls : Call.Extend (fun call => call.method ∈ methods) a.client.calls a'.client.calls

namespace Asked

variable {a a' a'' : Admin} {α β : Type}

theorem refl (a : Admin) : Asked a a := ⟨rfl, .refl _ _⟩

theorem trans (h : Asked a a') (h' : Asked a' a'') : Asked a a'' :=
  ⟨h'.server.trans h.server, h.calls.trans h'.calls⟩

theorem ask (a : Admin) {method : String} (among : method ∈ methods) (arguments : Entries)
    (refused : ClientError → Except Error α) (read : Value → Except Error α) :
    Asked a (a.ask method arguments refused read).2 where
  server := by
    unfold Admin.ask
    dsimp only
    split <;> rfl
  calls := extend_ask among

theorem given {x : Except Error α} {f : α → Outcome β} (h : ∀ v, Asked a (f v).2) :
    Asked a (a.given x f).2 := by
  cases x with
  | error e => exact .refl a
  | ok v => exact h v

theorem updateAliases (a : Admin) (actions : Value) : Asked a (a.updateAliases actions).2 :=
  given fun _ => given fun _ => ask a (by decide) _ _ _

theorem swapAlias (a : Admin) (name newIndex oldIndex : Value) :
    Asked a (a.swapAlias name newIndex oldIndex).2 := by
  have located : Asked a (a.currentIndices name).2 := by
    rw [currentIndices_after]
    exact given fun _ => ask a (by decide) _ _ _
  unfold Admin.swapAlias
  by_cases old : oldIndex.truthy = true
  · rw [if_pos old]
    exact given fun _ => updateAliases a _
  · rw [if_neg old]
    exact located.trans (given fun _ => updateAliases _ _)

theorem perform (a : Admin) (request : Request) : Asked a (request.perform a) := by
  cases request with
  | createIndex | deleteIndex | indexExists | listIndices | aliasIndices | listAliases =>
    exact given fun _ => ask a (by decide) _ _ _
  | putMapping | createAlias | aliasExists =>
    exact given fun _ => given fun _ => ask a (by decide) _ _ _
  | updateAliases actions => exact updateAliases a actions
  | swapAlias name newIndex oldIndex => exact swapAlias a name newIndex oldIndex

end Asked

end Admin

def ActionResult.value? : ActionResult → Option Value
  | value v => some v
  | _ => none

def Operation.result (d : Dialect) (desk : Desk) : Operation → Except Error (Option Value)
  | query | table _ => .ok none
  | act target action => (action.perform d desk.workspace target).1.map ActionResult.value?
  | next place =>
    match desk.cursors[place]? with
    | some cursor => (cursor.next d desk.workspace.store desk.line).1
    | none => .ok none
  | close place =>
    match desk.cursors[place]? with
    | some cursor => (cursor.close desk.line).1.map fun _ => none
    | none => .ok none
  | recordQuery cls given => (cls.connection (desk.given given) desk.line).map fun _ => none
  | add cls attributes given =>
    (Record.add d cls attributes (desk.given given) desk.line).1.map fun done => some (.bool done)
  | remove cls attributes given =>
    (Record.remove d desk.workspace.store cls attributes (desk.given given) desk.line).1.map
      fun done => some (.bool done)
  | addAll records given =>
    (Record.addAll d records (desk.given given) desk.line).1.map fun done => some (.bool done)
  | administer request =>
    match desk.line with
    | some c => (request.result (.opened d.suffix c.client)).map some
    | none => .ok none

/-- The requests that a connection sends as they are given. -/
inductive Sending where
  | search
  | bulk
  | update
  | updateByQuery
  | delete
  | deleteByQuery

namespace Sending

def method : Sending → String
  | search => "search"
  | bulk => "bulk"
  | update => "update"
  | updateByQuery => "update_by_query"
  | delete => "delete"
  | deleteByQuery => "delete_by_query"

def perform (sending : Sending) (c : Connection) (query bindings : Value) :
    Except Error Value × Connection :=
  match sending with
  | search => c.select query bindings
  | bulk => c.insert query bindings
  | other => c.run other.method query bindings

/-- A bulk request that has failing items is sent like any other. -/
theorem connection_perform (sending : Sending) (c : Connection) (query bindings : Value) :
    (sending.perform c query bindings).2 = (c.run sending.method query bindings).2 := by
  cases sending with
  | bulk =>
    change (c.insert query bindings).2 = (c.run "bulk" query bindings).2
    unfold Connection.insert
    cases c.run "bulk" query bindings with
    | mk reply c => cases reply <;> rfl
  | search | update | updateByQuery | delete | deleteByQuery => rfl

end Sending

/-- A desk with the cursors that were opened at its connection itself. -/
structure Station where
  desk : Desk
  readers : List OpenCursor

/-- What is done at a station. -/
inductive Errand where
  | work (operation : Operation)
  | enableLog
  | disableLog
  | flushLog
  | send (sending : Sending) (query bindings : Value)
  | clearScroll (id : Value)
  | openCursor (query : Value)
  | openScroll (id timeout limit : Value)
  | advance (place : Nat)
  | leave (place : Nat)

namespace Station

def opened (c : Connection) : Station := ⟨.opened c, []⟩

def line (s : Station) : Line := s.desk.line

def store (s : Station) : Store := s.desk.workspace.store

def calls (s : Station) : List Call := s.line.calls

def withLine (s : Station) (line : Line) : Station := { s with desk := s.desk.withLine line }

def settle (s : Station) (place : Nat) (reader : OpenCursor) (line : Line) : Station :=
  { s.withLine line with readers := s.readers.set place reader }

end Station

namespace Errand

def perform (d : Dialect) (s : Station) : Errand → Station
  | work operation => { s with desk := operation.perform d s.desk }
  | enableLog => s.withLine (s.line.map Connection.enableLog)
  | disableLog => s.withLine (s.line.map Connection.disableLog)
  | flushLog => s.withLine (s.line.map Connection.flushLog)
  | send sending query bindings =>
    s.withLine (s.line.map fun c => (sending.perform c query bindings).2)
  | clearScroll id => s.withLine (s.line.map fun c => (c.clearScroll id).2)
  | openCursor query => { s with readers := s.readers ++ [.hits (.fresh query)] }
  | openScroll id timeout limit =>
    { s with readers := s.readers ++ [.scroll (.fresh id timeout limit)] }
  | advance place =>
    match s.readers[place]? with
    | some reader =>
      let (_, reader, line) := reader.next d s.store s.line
      s.settle place reader line
    | none => s
  | leave place =>
    match s.readers[place]? with
    | some reader =>
      let (_, reader, line) := reader.close s.line
      s.settle place reader line
    | none => s

/-- What an errand comes to; without a connection nothing is asked. -/
def result (d : Dialect) (s : Station) : Errand → Except Error (Option Value)
  | work operation => operation.result d s.desk
  | enableLog | disableLog | flushLog | openCursor _ | openScroll _ _ _ => .ok none
  | send sending query bindings =>
    match s.line with
    | some c => (sending.perform c query bindings).1.map some
    | none => .ok none
  | clearScroll id =>
    match s.line with
    | some c => (c.clearScroll id).1.map fun _ => none
    | none => .ok none
  | advance place =>
    match s.readers[place]? with
    | some reader => (reader.next d s.store s.line).1
    | none => .ok none
  | leave place =>
    match s.readers[place]? with
    | some reader => (reader.close s.line).1.map fun _ => none
    | none => .ok none

def bindings : Errand → Value
  | send _ _ bindings => bindings
  | _ => .null

/-- What the errand asks of the administration of indices. -/
def administers : Errand → Bool
  | work (.administer _) => true
  | _ => false

end Errand

namespace Station

def run (d : Dialect) (s : Station) (errands : List Errand) : Station :=
  errands.foldl (fun s errand => errand.perform d s) s

def made (d : Dialect) (s : Station) (errand : Errand) : List Call :=
  (errand.perform d s).calls.drop s.calls.length

def exchanged (d : Dialect) (s : Station) (errand : Errand) : List Exchange :=
  match s.line with
  | some c => c.client.server.exchanges c.client.calls (s.made d errand)
  | none => []

/-- All errands of a run with the calls that they make. -/
def journal (d : Dialect) : Station → List Errand → List (Errand × List Call)
  | _, [] => []
  | s, errand :: rest => (errand, s.made d errand) :: journal d (errand.perform d s) rest

theorem line_withLine_map {s : Station} {c : Connection} (here : s.line = some c)
    (f : Connection → Connection) : (s.withLine (s.line.map f)).line = some (f c) := by
  change s.line.map f = some (f c)
  rw [here, Option.map_some]

theorem exchanged_eq {d : Dialect} {s : Station} {errand : Errand} {c c' : Connection}
    {exchanges : List Exchange} (here : s.line = some c) (after : (errand.perform d s).line = some c')
    (follows : Follows c c' exchanges) : s.exchanged d errand = exchanges := by
  rw [← follows.eq_exchanges]
  simp [exchanged, here, made, calls, after, Line.calls]

end Station

theorem Line.of_rel {R : Connection → Connection → Prop} {c : Connection} {line : Line}
    (h : Option.Rel R (some c) line) : ∃ c', line = some c' ∧ R c c' := by
  cases h with
  | some related => exact ⟨_, rfl, related⟩

/-- The methods by which a connection asks, releases apart. -/
def Connection.methods : List String :=
  ["search", "scroll", "bulk", "update", "delete", "update_by_query", "delete_by_query"]

/-- Any request of a connection is allowed. -/
abbrev Connection.Any (method : String) (_ : Value) : Prop := method ∈ Connection.methods

theorem Dialect.permits_any (d : Dialect) (index : Value) : d.Permits index Any := by
  constructor <;> intros <;> simp [Any, Connection.methods]

theorem DocumentCursor.permitted_any (d : Dialect) (store : Store) (s : DocumentCursor) :
    s.Permitted d store Any := by
  cases s with
  | fresh ref => exact d.permits_any _
  | running => exact fun _ _ => by simp [Any, Connection.methods]
  | finished => trivial

namespace Passage

variable {R : Connection → Connection → Prop} (p : Passage Any R)

include p

theorem record_addAll_any (d : Dialect) (records : List Value) (given : Bool) (line : Line) :
    Option.Rel R line (Record.addAll d records (if given then line else none) line).2 := by
  by_cases record : ∃ cls attributes rest, records = .record cls attributes :: rest
  · obtain ⟨cls, attributes, rest, rfl⟩ := record
    exact p.record_addAll (d.permits_any _) attributes rest given line
  · rw [Record.addAll_of_not_record d fun cls attributes rest eq => record ⟨cls, attributes, rest, eq⟩]
    exact p.same line

theorem operation (d : Dialect) (desk : Desk) {operation : Operation}
    (plain : (Errand.work operation).administers = false) :
    Option.Rel R desk.line (operation.perform d desk).line := by
  cases operation with
  | query | table => exact p.same _
  | act target action =>
    have acted := p.perform desk.workspace target (d.permits_any _) action
    unfold Operation.perform
    dsimp only
    split <;> rename_i done <;> rwa [done] at acted
  | next place =>
    unfold Operation.perform
    dsimp only
    split
    · exact p.nextLine _ desk.line (DocumentCursor.permitted_any d _ _)
    · exact p.same _
  | close place =>
    unfold Operation.perform
    dsimp only
    split
    · exact p.closeLine _ desk.line
    · exact p.same _
  | recordQuery cls given =>
    unfold Operation.perform
    dsimp only
    split <;> exact p.same _
  | add cls attributes given => exact p.record_add (d.permits_any _) attributes given desk.line
  | remove cls attributes given =>
    exact p.record_remove (d.permits_any _) _ attributes given desk.line
  | addAll records given => exact p.record_addAll_any d records given desk.line
  | administer request => cases plain

theorem readerNext (d : Dialect) (store : Store) (reader : OpenCursor) (line : Line) :
    Option.Rel R line (reader.next d store line).2.2 := by
  cases reader with
  | documents cursor => exact p.nextLine cursor line (cursor.permitted_any d store)
  | hits cursor =>
    cases line with
    | none => exact .none
    | some c => exact .some (p.next cursor c fun _ _ => by simp [Any, Connection.methods])
  | scroll scroll =>
    cases line with
    | none => exact .none
    | some c => exact .some (p.scrollNext scroll c)

theorem readerClose (reader : OpenCursor) (line : Line) :
    Option.Rel R line (reader.close line).2.2 := by
  cases reader with
  | documents cursor => exact p.closeLine cursor line
  | hits cursor =>
    cases line with
    | none => exact .none
    | some c => exact .some (p.close cursor c)
  | scroll scroll =>
    cases line with
    | none => exact .none
    | some c => exact .some (p.scrollClose scroll c)

end Passage

/-- An errand that neither switches the log, nor binds values, nor administers. -/
def Errand.plain : Errand → Bool
  | enableLog | disableLog | flushLog | send .. | work (.administer _) => false
  | _ => true

theorem Passage.errand {R : Connection → Connection → Prop} (p : Passage Any R) (d : Dialect)
    (s : Station) {errand : Errand} (plain : errand.plain = true) :
    Option.Rel R s.line (errand.perform d s).line := by
  cases errand with
  | work operation =>
    refine p.operation d s.desk ?_
    cases operation with
    | administer => cases plain
    | _ => rfl
  | clearScroll id =>
    change Option.Rel R s.line (s.line.map _)
    cases s.line with
    | none => exact .none
    | some c => exact .some (p.clearScroll c id)
  | openCursor | openScroll => exact p.same _
  | advance place =>
    unfold Errand.perform
    dsimp only
    split
    · exact p.readerNext d s.store _ s.line
    · exact p.same _
  | leave place =>
    unfold Errand.perform
    dsimp only
    split
    · exact p.readerClose _ s.line
    · exact p.same _
  | enableLog | disableLog | flushLog | send => cases plain

theorem Errand.eq_administer {errand : Errand} (administers : errand.administers = true) :
    ∃ request, errand = .work (.administer request) := by
  match errand with
  | .work (.administer request) => exact ⟨request, rfl⟩

/-- The administration of indices is given the bare client of the connection. -/
theorem Errand.administer_asked (d : Dialect) {s : Station} {c : Connection}
    (here : s.line = some c) {errand : Errand} (administers : errand.administers = true) :
    ∃ a, Admin.Asked (.opened d.suffix c.client) a ∧
      (errand.perform d s).line = some { c with client := a.client } := by
  obtain ⟨request, rfl⟩ := eq_administer administers
  refine ⟨_, .perform (.opened d.suffix c.client) request, ?_⟩
  have found : s.desk.line = some c := here
  simp only [Errand.perform, Operation.perform, found]
  rfl

end DocumentSearch
