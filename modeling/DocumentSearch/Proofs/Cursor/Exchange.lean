import DocumentSearch.Connection.Basic

/-!
# Exchanges with a server

The calls that a client has recorded, with the answers that its server gave to them in turn, tell
everything about a run that the server can see.
-/
namespace DocumentSearch

namespace Call

abbrev scroll (id timeout : Value) : Call := ⟨"scroll", [("scroll_id", id), ("scroll", timeout)]⟩

abbrev release (id : Value) : Call := ⟨"clear_scroll", [("scroll_id", id)]⟩

end Call

abbrev Exchange := Call × Answer

namespace Server

/-- The requests among calls that follow earlier ones, each with its answer. To choose options of
the client is no request. -/
def exchanges (server : Server) : List Call → List Call → List Exchange
  | _, [] => []
  | before, call :: rest =>
    (if call.method = "options" then [] else [(call, server before call)]) ++
      exchanges server (before ++ [call]) rest

theorem exchanges_append (server : Server) (before calls more : List Call) :
    server.exchanges before (calls ++ more) =
      server.exchanges before calls ++ server.exchanges (before ++ calls) more := by
  induction calls generalizing before with
  | nil => simp [exchanges]
  | cons call calls ih => simp [exchanges, ih]

theorem call_mem_of_exchanges {server : Server} {before calls : List Call} {exchange : Exchange}
    (mem : exchange ∈ server.exchanges before calls) : exchange.1 ∈ calls := by
  induction calls generalizing before with
  | nil => cases mem
  | cons call calls ih =>
    rcases List.mem_append.mp mem with own | later
    · split at own
      · cases own
      · rw [List.mem_singleton.mp own]
        exact List.mem_cons_self
    · exact List.mem_cons_of_mem _ (ih later)

end Server

namespace Connection

@[simp] theorem server_timedClient (c : Connection) : c.timedClient.server = c.client.server := by
  unfold timedClient
  split <;> rfl

def chosen (c : Connection) : List Call :=
  match c.config.timeout? with
  | some n => [⟨"options", [("request_timeout", .ofNumber n)]⟩]
  | none => []

theorem exchanges_chosen (c : Connection) (server : Server) (before : List Call) :
    server.exchanges before c.chosen = [] := by
  unfold chosen
  split <;> simp [Server.exchanges]

theorem calls_timedClient (c : Connection) : c.timedClient.calls = c.client.calls ++ c.chosen := by
  cases h : c.config.timeout? <;> simp [timedClient, chosen, h]

def answer (c : Connection) (call : Call) : Answer := c.client.server c.timedClient.calls call

def sent (c : Connection) (call : Call) : Connection :=
  { c with client := (c.timedClient.send call).2 }

@[simp] theorem config_logged (c : Connection) (query bindings : Value) :
    (c.logged query bindings).config = c.config := by
  unfold logged
  split <;> rfl

@[simp] theorem client_logged (c : Connection) (query bindings : Value) :
    (c.logged query bindings).client = c.client := by
  unfold logged
  split <;> rfl

def outcome (query bindings : Value) : Answer → Except Error Value
  | .refused e => .error (.execution (failure query bindings e))
  | .broken e => .error e
  | .value v => v.reply

/-- A connection after a request: it is logged if it was answered. -/
def ran (c : Connection) (call : Call) (query bindings : Value) : Connection :=
  match c.answer call with
  | .value _ => (c.sent call).logged query bindings
  | _ => c.sent call

theorem run_of_parameters (c : Connection) (method : String) {query : Value} {parameters : Entries}
    (bindings : Value) (named : parametersOf query = .ok parameters) :
    c.run method query bindings =
      (outcome query bindings (c.answer ⟨method, parameters⟩),
        c.ran ⟨method, parameters⟩ query bindings) := by
  have answered : (c.timedClient.send ⟨method, parameters⟩).1 = c.answer ⟨method, parameters⟩ := by
    simp [Client.send, answer]
  simp only [run, named, ran, answered]
  cases c.answer ⟨method, parameters⟩ <;> rfl

theorem run_eq (c : Connection) (method : String) {parameters : Entries} (bindings : Value)
    (texts : parameters.all (fun p => p.1.string?.isSome) = true) :
    c.run method (.map parameters) bindings =
      (outcome (.map parameters) bindings (c.answer ⟨method, parameters⟩),
        c.ran ⟨method, parameters⟩ (.map parameters) bindings) := by
  refine c.run_of_parameters method bindings ?_
  simp [parametersOf, Value.entries, Value.entries?, texts, bind, Except.bind, pure, Except.pure]

theorem clearScroll_eq (c : Connection) (id : Value) :
    c.clearScroll id =
      (match c.answer (.release id) with
        | .broken e => .error e
        | _ => .ok (),
        c.sent (.release id)) := by
  have answered : (c.timedClient.send (.release id)).1 =
      c.answer (.release id) := by
    simp [Client.send, answer]
  simp only [clearScroll, answered]
  cases c.answer (.release id) <;> rfl

/-- A connection that another one has become by some exchanges. -/
structure Follows (start c : Connection) (exchanges : List Exchange) : Prop where
  server : c.client.server = start.client.server
  config : c.config = start.config
  calls : ∃ later, c.client.calls = start.client.calls ++ later ∧
    start.client.server.exchanges start.client.calls later = exchanges

namespace Follows

variable {start c : Connection} {exchanges : List Exchange}

theorem refl (c : Connection) : Follows c c [] := ⟨rfl, rfl, [], by simp, rfl⟩

theorem trans {d : Connection} {more : List Exchange} (h : Follows start c exchanges)
    (onwards : Follows c d more) : Follows start d (exchanges ++ more) := by
  obtain ⟨server, config, earlier, calls, rfl⟩ := h
  obtain ⟨server', config', later, calls', rfl⟩ := onwards
  refine ⟨server'.trans server, config'.trans config, earlier ++ later, ?_, ?_⟩
  · rw [calls', calls, List.append_assoc]
  · rw [Server.exchanges_append, server, calls]

theorem of_same {c' : Connection} (config : c'.config = c.config) (client : c'.client = c.client) :
    Follows c c' [] := ⟨by rw [client], config, [], by simp [client], rfl⟩

theorem unsent (c : Connection) : Follows c { c with client := c.timedClient } [] :=
  ⟨by simp, rfl, c.chosen, by simp [calls_timedClient], exchanges_chosen c _ _⟩

theorem eq_exchanges (h : Follows start c exchanges) :
    start.client.server.exchanges start.client.calls
      (c.client.calls.drop start.client.calls.length) = exchanges := by
  obtain ⟨-, -, later, calls, rfl⟩ := h
  rw [calls, List.drop_left]

theorem sent (h : Follows start c exchanges) (call : Call) (request : call.method ≠ "options") :
    Follows start (c.sent call) (exchanges ++ [(call, c.answer call)]) := by
  obtain ⟨server, config, later, calls, rfl⟩ := h
  refine ⟨?_, config, later ++ c.chosen ++ [call], ?_, ?_⟩
  · simp [Connection.sent, Client.send, Client.note, server]
  · simp [Connection.sent, calls_timedClient, calls]
  · simp [Server.exchanges_append, exchanges_chosen, Server.exchanges, request, answer,
      calls_timedClient, calls, server]

theorem ran (h : Follows start c exchanges) (call : Call) (request : call.method ≠ "options")
    (query bindings : Value) :
    Follows start (c.ran call query bindings) (exchanges ++ [(call, c.answer call)]) := by
  have sent := h.sent call request
  unfold Connection.ran
  split
  · exact ⟨by simpa using sent.server, by simpa using sent.config, by simpa using sent.calls⟩
  · exact sent

end Follows

end Connection

end DocumentSearch
