import DocumentSearch.Error

/-!
# Clients

A client sends calls to a server and records them in order. What a server answers may depend on all
calls that came before.
-/
namespace DocumentSearch

structure Call where
  method : String
  arguments : Entries

inductive ClientErrorKind where
  | notFound
  | badRequest
  | api
  | transport
  deriving DecidableEq, Repr

structure ClientError where
  kind : ClientErrorKind
  text : String
  status : Value
  body : Value

inductive Answer where
  | value (v : Value)
  | refused (e : ClientError)
  /-- A failure that is no refusal. -/
  | broken (e : Error)

/-- The answer to a call after the calls that came before, in order. -/
abbrev Server := List Call → Call → Answer

structure Client where
  server : Server
  calls : List Call

namespace Client

def note (c : Client) (call : Call) : Client := { c with calls := c.calls ++ [call] }

def send (c : Client) (call : Call) : Answer × Client := (c.server c.calls call, c.note call)

@[simp] theorem calls_note (c : Client) (call : Call) :
    (c.note call).calls = c.calls ++ [call] := rfl

@[simp] theorem calls_send (c : Client) (call : Call) :
    (c.send call).2.calls = c.calls ++ [call] := rfl

end Client

/-- A server with a queue of answers for each method, and an empty table once a queue has run
out. -/
def Server.scripted (script : Table String (List Answer)) : Server := fun earlier call =>
  let answered := (earlier.filter (fun other => other.method = call.method)).length
  (((script.find? call.method).getD [])[answered]?).getD (.value (.map []))

end DocumentSearch
