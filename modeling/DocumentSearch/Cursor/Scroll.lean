import DocumentSearch.Connection.Basic

/-!
# Scrolls

A scroll takes further hits from a context that the server keeps. It asks for the next batch only
when one is needed, follows the context when its id changes, and releases it exactly when it ends:
after an empty batch, at its limit, on an error or when it is closed.
-/
namespace DocumentSearch

/-- What the next step of a cursor gives: a hit, the end, or an error. -/
abbrev Pull := Except Error (Option Value)

inductive Scroll where
  | fresh (id timeout limit : Value)
  | reading (id timeout : Value) (limit : Option Int) (count : Nat) (pending : List Value)
  | finished

namespace Scroll

/-- Whether a limit is reached; without a limit it never is. -/
def reached (limit : Option Int) (count : Nat) : Bool :=
  match limit with
  | some n => n ≤ count
  | none => false

/-- The number of hits that a limit allows. What counts as false, and what has no end, sets no
limit; a NaN allows none. -/
def limitOf (v : Value) : Except Misuse (Option Int) :=
  if !v.truthy then .ok none
  else do
    match (← v.number).extended? with
    | some (.finite r) => return some r.ceil
    | some .top => return none
    | _ => return some 0

/-- Releases the context. An error in doing so replaces what would have been given. -/
def release (c : Connection) (id : Value) (given : Pull) : Pull × Scroll × Connection :=
  match c.clearScroll id with
  | (.ok (), c) => (given, finished, c)
  | (.error e, c) => (.error e, finished, c)

/-- The id under which the context goes on, and the hits of a reply. What counts as false is an
empty batch. -/
def readReply (id reply : Value) : Value × Except Misuse (List Value) :=
  match reply.get "_scroll_id" .null with
  | .error e => (id, .error e)
  | .ok next => (next.orElse id, batch)
where
  batch : Except Misuse (List Value) := do
    let hits ← reply.batch
    if hits.truthy then hits.items else return []

/-- Asks for the next batch and gives its first hit. -/
def fetch (c : Connection) (id timeout : Value) (limit : Option Int) (count : Nat) :
    Pull × Scroll × Connection :=
  match c.run "scroll" (.map [("scroll_id", id), ("scroll", timeout)]) .null with
  | (.error e, c) => release c id (.error e)
  | (.ok reply, c) =>
    match readReply id reply with
    | (id, .error e) => release c id (.error (.misuse e))
    | (id, .ok []) => release c id (.ok none)
    | (id, .ok (hit :: rest)) => (.ok (some hit), reading id timeout limit (count + 1) rest, c)

def advance (c : Connection) (id timeout : Value) (limit : Option Int) (count : Nat) :
    List Value → Pull × Scroll × Connection
  | hit :: rest =>
    if reached limit count then release c id (.ok none)
    else (.ok (some hit), reading id timeout limit (count + 1) rest, c)
  | [] =>
    if reached limit count then release c id (.ok none) else fetch c id timeout limit count

/-- The limit is read with the first step. -/
def next (s : Scroll) (c : Connection) : Pull × Scroll × Connection :=
  match s with
  | fresh id timeout limit =>
    match limitOf limit with
    | .ok limit => advance c id (timeout.orElse c.config.scrollTimeout) limit 0 []
    | .error e => release c id (.error (.misuse e))
  | reading id timeout limit count pending => advance c id timeout limit count pending
  | finished => (.ok none, finished, c)

/-- A scroll that never started has nothing to release. -/
def close (s : Scroll) (c : Connection) : Except Error Unit × Scroll × Connection :=
  match s with
  | reading id _ _ _ _ =>
    let (result, c) := c.clearScroll id
    (result, finished, c)
  | _ => (.ok (), finished, c)

end Scroll

end DocumentSearch
