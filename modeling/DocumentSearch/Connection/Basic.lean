import DocumentSearch.Connection.Client
import DocumentSearch.Connection.Config
import DocumentSearch.Reply

/-!
# Connections

A connection sends requests through its client with the timeout of its settings, turns what the
client refuses into errors of its own, and logs the requests that were answered while logging is on.
-/
namespace DocumentSearch

structure LogEntry where
  query : Value
  bindings : Value

structure Connection where
  config : Config
  client : Client
  logging : Bool
  log : List LogEntry

namespace Connection

def opened (config : Config) (server : Server) : Connection := ⟨config, ⟨server, []⟩, false, []⟩

/-- The client under the timeout of the settings. -/
def timedClient (c : Connection) : Client :=
  match c.config.timeout? with
  | some n => c.client.note ⟨"options", [("request_timeout", .ofNumber n)]⟩
  | none => c.client

/-- What a refusal says about its type and its reason. -/
def refusalDetail (body : Value) : Value × Value :=
  let error := match body with
    | .map entries => Value.under entries "error"
    | v => v
  match error with
  | .map entries => (Value.under entries "type", Value.under entries "reason")
  | .str reason => (.null, .str reason)
  | _ => (.null, .null)

def failure (query bindings : Value) (e : ClientError) : ExecutionFailure :=
  let (errorType, reason) := refusalDetail e.body
  ⟨query, bindings.orElse (.list []), e.status, errorType, reason, e.text⟩

def logged (c : Connection) (query bindings : Value) : Connection :=
  if c.logging then { c with log := c.log ++ [⟨query, bindings.orElse (.list [])⟩] } else c

/-- Parameters of a call are a table whose keys are texts. -/
def parametersOf (query : Value) : Except Misuse Entries := do
  let parameters ← query.entries
  if parameters.all (fun p => p.1.string?.isSome) then return parameters else throw .illTyped

/-- Sends a request. An answer is logged before it is read. -/
def run (c : Connection) (method : String) (query bindings : Value) :
    Except Error Value × Connection :=
  match parametersOf query with
  | .error e => (.error (.misuse e), { c with client := c.timedClient })
  | .ok parameters =>
    let (answer, client) := c.timedClient.send ⟨method, parameters⟩
    let c := { c with client := client }
    match answer with
    | .refused e => (.error (.execution (failure query bindings e)), c)
    | .broken e => (.error e, c)
    | .value v => (v.reply, c.logged query bindings)

def select (c : Connection) (query bindings : Value) : Except Error Value × Connection :=
  c.run "search" query bindings

def bulkOutcome (limit : Number) (response : Value) : Except Error Value := do
  if (← response.get "errors" .null).truthy then
    let result ← BulkResult.ofResponse response
    let _ ← BulkResult.limitOf (.ofNumber limit)
    throw (.bulkInsert result (.ofNumber limit))
  else return response

def insert (c : Connection) (query bindings : Value) : Except Error Value × Connection :=
  match c.run "bulk" query bindings with
  | (.ok response, c) => (bulkOutcome c.config.bulkErrorLimit response, c)
  | failed => failed

/-- Releases a scroll context. A refusal is of no consequence. -/
def clearScroll (c : Connection) (id : Value) : Except Error Unit × Connection :=
  let (answer, client) := c.timedClient.send ⟨"clear_scroll", [("scroll_id", id)]⟩
  let c := { c with client := client }
  match answer with
  | .broken e => (.error e, c)
  | _ => (.ok (), c)

def enableLog (c : Connection) : Connection := { c with logging := true }

def disableLog (c : Connection) : Connection := { c with logging := false }

def flushLog (c : Connection) : Connection := { c with log := [] }

def close (c : Connection) : Connection := { c with client := c.client.note ⟨"close", []⟩ }

end Connection

end DocumentSearch
