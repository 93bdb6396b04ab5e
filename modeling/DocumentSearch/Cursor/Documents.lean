import DocumentSearch.Cursor.Basic
import DocumentSearch.Execution.Read

/-!
# Cursors over documents

A builder's cursor writes its request and opens a cursor over hits with its first step, and turns
each hit into a document.
-/
namespace DocumentSearch

inductive DocumentCursor where
  | fresh (ref : Ref)
  | running (ref : Ref) (cursor : Cursor)
  | finished

namespace DocumentCursor

/-- The next document. A hit that cannot be read ends the cursor and releases its context. -/
def pull (store : Store) (ref : Ref) (cursor : Cursor) (c : Connection) :
    Pull × DocumentCursor × Connection :=
  match cursor.next c with
  | (.error e, _, c) => (.error e, finished, c)
  | (.ok none, _, c) => (.ok none, finished, c)
  | (.ok (some hit), cursor, c) =>
    match Reply.document (store.get ref).expandInnerHits hit with
    | .ok document => (.ok (some document), running ref cursor, c)
    | .error e => (.error (.misuse e), finished, (cursor.close c).2.2)

def nextOn (d : Dialect) (store : Store) (s : DocumentCursor) (c : Connection) :
    Pull × DocumentCursor × Connection :=
  match s with
  | fresh ref =>
    match d.searchRequest store (store.get ref) with
    | .error e => (.error e, finished, c)
    | .ok request => pull store ref (.fresh (.map request.toEntries)) c
  | running ref cursor => pull store ref cursor c
  | finished => (.ok none, finished, c)

/-- A cursor without a connection fails with its first step. -/
def next (d : Dialect) (store : Store) (s : DocumentCursor) : Line → Pull × DocumentCursor × Line
  | some c =>
    let (result, s, c) := s.nextOn d store c
    (result, s, some c)
  | none =>
    match s with
    | finished => (.ok none, finished, none)
    | _ => (.error .unbound, finished, none)

/-- The cursor over hits is left to itself, so an error in releasing its context is lost. -/
def closeOn (s : DocumentCursor) (c : Connection) :
    Except Error Unit × DocumentCursor × Connection :=
  match s with
  | running _ cursor => (.ok (), finished, (cursor.close c).2.2)
  | _ => (.ok (), finished, c)

def close (s : DocumentCursor) : Line → Except Error Unit × DocumentCursor × Line
  | some c =>
    let (result, s, c) := s.closeOn c
    (result, s, some c)
  | none => (.ok (), finished, none)

end DocumentCursor

end DocumentSearch
