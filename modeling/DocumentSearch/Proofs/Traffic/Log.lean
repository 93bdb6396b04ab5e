import DocumentSearch.Proofs.Traffic.Station

/-!
# The query log

The log of a connection can be told from the outside: from when it was switched and emptied, and
from the requests that were answered. It holds the answered requests since it was emptied last, as
far as logging was on.
-/
namespace DocumentSearch

open Connection

/-- What a log says of a request: its parameters and the values bound to it. -/
abbrev Logged := Except Misuse Entries × Value

def LogEntry.said (entry : LogEntry) : Logged := (parametersOf entry.query, entry.bindings)

/-- What happens to a log. -/
inductive LogEvent where
  | enabled
  | disabled
  | flushed
  | exchanged (exchange : Exchange) (bindings : Value)

namespace LogEvent

def turns (on : Bool) : LogEvent → Bool
  | enabled => true
  | disabled => false
  | flushed | exchanged _ _ => on

def flushes : LogEvent → Bool
  | flushed => true
  | _ => false

/-- The entry for an event while logging is on. Only an answered request has one, and to release a
context is not such a request. -/
def entry : LogEvent → Option Logged
  | exchanged (call, .value _) bindings =>
    if call.method ∈ Connection.methods then some (.ok call.arguments, bindings.orElse (.list []))
    else none
  | _ => none

def exchange? : LogEvent → Option Exchange
  | exchanged exchange _ => some exchange
  | _ => none

/-- The entries that are left after events: those from when logging was on, unless the log is emptied
later. -/
def entries (on : Bool) : List LogEvent → List Logged
  | [] => []
  | event :: rest =>
    (if on && !rest.any flushes then event.entry.toList else []) ++ entries (event.turns on) rest

theorem entries_append (on : Bool) (events more : List LogEvent) :
    entries on (events ++ more) =
      (if more.any flushes then [] else entries on events) ++
        entries (events.foldl turns on) more := by
  induction events generalizing on with
  | nil => simp [entries]
  | cons event events ih =>
    cases later : more.any flushes with
    | true => simp [entries, ih, later]
    | false => simp [entries, ih, later]

end LogEvent

namespace Connection

variable {c c' c'' : Connection}

theorem logging_logged (c : Connection) (query bindings : Value) :
    (c.logged query bindings).logging = c.logging := by
  unfold logged
  split <;> rfl

theorem log_logged (c : Connection) (query bindings : Value) :
    (c.logged query bindings).log =
      c.log ++ if c.logging then [⟨query, bindings.orElse (.list [])⟩] else [] := by
  unfold logged
  split <;> simp

/-- A log after events. -/
structure Logs (c : Connection) (events : List LogEvent) (c' : Connection) : Prop where
  logging : c'.logging = events.foldl LogEvent.turns c.logging
  log : c'.log.map LogEntry.said =
    (if events.any LogEvent.flushes then [] else c.log.map LogEntry.said) ++
      LogEvent.entries c.logging events

namespace Logs

variable {events more : List LogEvent}

theorem refl (c : Connection) : Logs c [] c := ⟨rfl, by simp [LogEvent.entries]⟩

theorem trans (h : Logs c events c') (h' : Logs c' more c'') : Logs c (events ++ more) c'' where
  logging := by rw [h'.logging, h.logging, List.foldl_append]
  log := by
    rw [h'.log, h.log, h.logging, LogEvent.entries_append, List.any_append]
    cases more.any LogEvent.flushes <;> simp

theorem one {event : LogEvent} (logging : c'.logging = event.turns c.logging)
    (kept : event.flushes = false)
    (log : c'.log.map LogEntry.said =
      c.log.map LogEntry.said ++ if c.logging then event.entry.toList else []) :
    Logs c [event] c' :=
  ⟨logging, by simp [LogEvent.entries, kept, log]⟩

theorem enableLog (c : Connection) : Logs c [.enabled] c.enableLog :=
  one rfl rfl (by simp [LogEvent.entry, Connection.enableLog])

theorem disableLog (c : Connection) : Logs c [.disabled] c.disableLog :=
  one rfl rfl (by simp [LogEvent.entry, Connection.disableLog])

theorem flushLog (c : Connection) : Logs c [.flushed] c.flushLog :=
  ⟨rfl, by simp [LogEvent.entries, LogEvent.entry, LogEvent.flushes, Connection.flushLog]⟩

theorem silent {call : Call} {answer : Answer} (bindings : Value)
    (nothing : (LogEvent.exchanged (call, answer) bindings).entry = none)
    (logging : c'.logging = c.logging) (log : c'.log = c.log) :
    Logs c [.exchanged (call, answer) bindings] c' :=
  one logging rfl (by simp [nothing, log])

theorem ran (c : Connection) {method : String} {query : Value} {parameters : Entries}
    (bindings : Value) (among : method ∈ Connection.methods)
    (named : parametersOf query = .ok parameters) :
    Logs c [.exchanged (⟨method, parameters⟩, c.answer ⟨method, parameters⟩) bindings]
      (c.ran ⟨method, parameters⟩ query bindings) := by
  unfold Connection.ran
  cases c.answer ⟨method, parameters⟩ with
  | refused e | broken e => exact silent bindings rfl rfl rfl
  | value v =>
    have entry : (LogEvent.exchanged (⟨method, parameters⟩, .value v) bindings).entry =
        some (.ok parameters, bindings.orElse (.list [])) := if_pos among
    refine one ?_ rfl ?_
    · exact logging_logged _ _ _
    · dsimp only
      rw [log_logged, entry]
      cases on : c.logging <;> simp [LogEntry.said, named, Connection.sent, on]

end Logs

/-- A connection that another one has become by events, whose exchanges are all that its client
had. -/
structure Traced (c : Connection) (events : List LogEvent) (c' : Connection) : Prop where
  follows : Follows c c' (events.filterMap LogEvent.exchange?)
  logs : Logs c events c'

namespace Traced

variable {events more : List LogEvent}

theorem refl (c : Connection) : Traced c [] c := ⟨.refl c, .refl c⟩

theorem trans (h : Traced c events c') (h' : Traced c' more c'') : Traced c (events ++ more) c'' := by
  refine ⟨?_, h.logs.trans h'.logs⟩
  rw [List.filterMap_append]
  exact h.follows.trans h'.follows

theorem ran (c : Connection) {method : String} {query : Value} {parameters : Entries}
    (bindings : Value) (among : method ∈ Connection.methods)
    (named : parametersOf query = .ok parameters) :
    Traced c [.exchanged (⟨method, parameters⟩, c.answer ⟨method, parameters⟩) bindings]
      (c.ran ⟨method, parameters⟩ query bindings) := by
  refine ⟨?_, .ran c bindings among named⟩
  refine (Follows.refl c).ran ⟨method, parameters⟩ ?_ query bindings
  rintro rfl
  simp [methods] at among

end Traced

/-- What is logged across requests to which values are bound. -/
def TracedWith (bindings : Value) (c c' : Connection) : Prop :=
  ∃ exchanges : List Exchange, Traced c (exchanges.map fun x => .exchanged x bindings) c'

theorem tracedWith_run (c : Connection) {method : String} (query bindings : Value)
    (among : method ∈ Connection.methods) :
    TracedWith bindings c (c.run method query bindings).2 := by
  cases named : parametersOf query with
  | error e =>
    simp only [run, named]
    exact ⟨[], .unsent c, ⟨rfl, by simp [LogEvent.entries]⟩⟩
  | ok parameters =>
    rw [run_of_parameters c method bindings named]
    exact ⟨[_], .ran c bindings among named⟩

theorem passage_traced : Passage Any (TracedWith .null) where
  refl c := ⟨[], .refl c⟩
  trans := by
    rintro c c' c'' ⟨exchanges, h⟩ ⟨more, h'⟩
    refine ⟨exchanges ++ more, ?_⟩
    rw [List.map_append]
    exact h.trans h'
  run c _ _ among := tracedWith_run c _ _ among
  scroll _ _ := by simp [Any, methods]
  clearScroll c id := by
    rw [clearScroll_eq]
    refine ⟨[(.release id, c.answer (.release id))], ?_, ?_⟩
    · exact (Follows.refl c).sent (.release id) (by simp)
    · refine .silent .null ?_ rfl rfl
      cases c.answer (.release id) <;> rfl

theorem Logs.others {c c' : Connection} {exchanges : List Exchange} (bindings : Value)
    (others : ∀ exchange ∈ exchanges, exchange.1.method ∉ methods) (logging : c'.logging = c.logging)
    (log : c'.log = c.log) : Logs c (exchanges.map fun x => .exchanged x bindings) c' := by
  have each : Logs c (exchanges.map fun x => .exchanged x bindings) c := by
    induction exchanges with
    | nil => exact .refl c
    | cons exchange exchanges ih =>
      obtain ⟨other, rest⟩ := List.forall_mem_cons.mp others
      obtain ⟨call, answer⟩ := exchange
      refine Logs.trans (.silent bindings ?_ rfl rfl) (ih rest)
      cases answer with
      | value => exact if_neg other
      | refused | broken => rfl
  exact ⟨logging.trans each.logging, (congrArg (List.map LogEntry.said) log).trans each.log⟩

/-- Nothing that is asked of the administration of indices is logged. -/
theorem tracedWith_asked {a : Admin} {suffix : Value} (c : Connection)
    (asked : Admin.Asked (.opened suffix c.client) a) :
    TracedWith .null c { c with client := a.client } := by
  obtain ⟨later, calls, all⟩ := asked.calls
  have exchanged : List.filterMap LogEvent.exchange?
      ((c.client.server.exchanges c.client.calls later).map fun x => .exchanged x .null) =
        c.client.server.exchanges c.client.calls later := by
    rw [List.filterMap_map]
    exact List.filterMap_some
  refine ⟨c.client.server.exchanges c.client.calls later, ?_, .others .null ?_ rfl rfl⟩
  · rw [exchanged]
    exact ⟨asked.server, rfl, later, calls, rfl⟩
  · intro exchange mem among
    have apart : ∀ method ∈ Admin.methods, method ∉ methods := by decide
    exact apart _ (all exchange.1 (Server.call_mem_of_exchanges mem)) among

end Connection

namespace Station

def events (d : Dialect) (s : Station) (errand : Errand) : List LogEvent :=
  match errand with
  | .enableLog => [.enabled]
  | .disableLog => [.disabled]
  | .flushLog => [.flushed]
  | _ => (s.exchanged d errand).map fun x => .exchanged x errand.bindings

def history (d : Dialect) : Station → List Errand → List LogEvent
  | _, [] => []
  | s, errand :: rest => s.events d errand ++ history d (errand.perform d s) rest

end Station

open Station

theorem Errand.events_of_tracedWith {d : Dialect} {s : Station} {c c' : Connection} {errand : Errand}
    (here : s.line = some c) (after : (errand.perform d s).line = some c')
    (plain : s.events d errand = (s.exchanged d errand).map fun x => .exchanged x errand.bindings)
    (traced : TracedWith errand.bindings c c') : Traced c (s.events d errand) c' := by
  obtain ⟨exchanges, traced⟩ := traced
  -- the exchanges that the trace has found are the ones that the client had
  have exchanged : (exchanges.map fun x => LogEvent.exchanged x errand.bindings).filterMap
      LogEvent.exchange? = exchanges := by
    rw [List.filterMap_map]
    exact List.filterMap_some
  have own : s.exchanged d errand = exchanges := by
    have follows := traced.follows
    rw [exchanged] at follows
    exact exchanged_eq here after follows
  rw [plain, own]
  exact traced

theorem Connection.Traced.of_log {c c' : Connection} {event : LogEvent} (logs : Logs c [event] c')
    (silent : event.exchange? = none) (config : c'.config = c.config) (client : c'.client = c.client) :
    Traced c [event] c' := by
  refine ⟨?_, logs⟩
  simp only [List.filterMap_cons, silent, List.filterMap_nil]
  exact .of_same config client

theorem Errand.perform_traced (d : Dialect) {s : Station} {c : Connection} (here : s.line = some c)
    (errand : Errand) :
    ∃ c', (errand.perform d s).line = some c' ∧ Traced c (s.events d errand) c' := by
  have mapped := line_withLine_map here
  have ordinary : errand.plain = true → s.events d errand =
      (s.exchanged d errand).map (fun x => .exchanged x errand.bindings) → errand.bindings = .null →
      ∃ c', (errand.perform d s).line = some c' ∧ Traced c (s.events d errand) c' := by
    intro plain events unbound
    have kept := passage_traced.errand d s plain
    rw [here] at kept
    obtain ⟨c', after, traced⟩ := Line.of_rel kept
    exact ⟨c', after, events_of_tracedWith here after events (unbound ▸ traced)⟩
  cases errand with
  | enableLog => exact ⟨_, mapped _, .of_log (.enableLog c) rfl rfl rfl⟩
  | disableLog => exact ⟨_, mapped _, .of_log (.disableLog c) rfl rfl rfl⟩
  | flushLog => exact ⟨_, mapped _, .of_log (.flushLog c) rfl rfl rfl⟩
  | send sending query bindings =>
    refine ⟨_, mapped _, events_of_tracedWith here (mapped _) rfl ?_⟩
    rw [sending.connection_perform]
    exact tracedWith_run c query bindings (by cases sending <;> decide)
  | work operation =>
    cases operation with
    | administer request =>
      have administers : (Errand.work (.administer request)).administers = true := rfl
      obtain ⟨a, asked, after⟩ := administer_asked d here administers
      exact ⟨_, after, events_of_tracedWith here after rfl (tracedWith_asked c asked)⟩
    | _ => exact ordinary rfl rfl rfl
  | clearScroll | openCursor | openScroll | advance | leave => exact ordinary rfl rfl rfl

namespace Station

theorem run_traced (d : Dialect) {s : Station} {c : Connection} (here : s.line = some c)
    (errands : List Errand) :
    ∃ c', (s.run d errands).line = some c' ∧ Traced c (s.history d errands) c' := by
  induction errands generalizing s c with
  | nil => exact ⟨c, here, .refl c⟩
  | cons errand rest ih =>
    obtain ⟨c', after, first⟩ := errand.perform_traced d here
    obtain ⟨c'', done, later⟩ := ih after
    exact ⟨c'', done, first.trans later⟩

/-- Whatever is done, in whatever order, and however the server answers: the log consists of one
entry for each request of a logged kind that was answered while logging was on and since the log was
emptied last, in order, with the parameters that were sent and the values that were bound. -/
theorem log_run (d : Dialect) (c : Connection) (errands : List Errand) :
    let s := Station.opened c
    let history := s.history d errands
    ∃ c', (s.run d errands).line = some c' ∧
      Follows c c' (history.filterMap LogEvent.exchange?) ∧
      c'.log.map LogEntry.said =
        (if history.any LogEvent.flushes then [] else c.log.map LogEntry.said) ++
          LogEvent.entries c.logging history := by
  obtain ⟨c', after, traced⟩ := run_traced d (s := .opened c) rfl errands
  exact ⟨c', after, traced.follows, traced.logs.log⟩

/-- A server where an item of a bulk request fails, and a deletion is refused. -/
def grudging : Server :=
  .scripted [("bulk", [.value (.map [("errors", .bool true), ("items", .list [])])]),
    ("delete", [.refused ⟨.api, "no", .int 500, .null⟩])]

example :
    ((Station.opened (.opened .standard grudging)).run .standard
      [.enableLog, .send .bulk (.map [("index", "posts")]) .null, .clearScroll "s0",
        .send .delete (.map [("index", "posts")]) .null, .disableLog,
        .send .search (.map [("index", "posts")]) .null]).line.map
          (fun c => c.log.map LogEntry.said) =
      some [(.ok [("index", "posts")], .list [])] := by rfl

end Station

end DocumentSearch
