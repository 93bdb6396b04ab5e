import DocumentSearch.Session.Evaluate
import DocumentSearch.Admin.Basic
import DocumentSearch.Record.Basic

/-!
# Sessions

A session has builders with one dialect and at most one connection, the cursors that were opened,
and names for the objects that a script works with.
-/
namespace DocumentSearch

/-- A cursor over documents, over hits, or over a scroll context that is there already. -/
inductive OpenCursor where
  | documents (cursor : DocumentCursor)
  | hits (cursor : Cursor)
  | scroll (scroll : Scroll)

namespace OpenCursor

/-- A step of a cursor that needs a connection; there is none only if the cursor was never
opened. -/
def onLine {α σ : Type} (wrap : σ → OpenCursor) (s : σ) (unopened : α)
    (step : σ → Connection → α × σ × Connection) : Line → α × OpenCursor × Line
  | some c =>
    let (result, s, c) := step s c
    (result, wrap s, some c)
  | none => (unopened, wrap s, none)

def next (d : Dialect) (store : Store) (cursor : OpenCursor) (line : Line) :
    Pull × OpenCursor × Line :=
  match cursor with
  | documents s =>
    let (result, s, line) := s.next d store line
    (result, documents s, line)
  | hits s => onLine hits s (.ok none) Cursor.next line
  | scroll s => onLine scroll s (.ok none) Scroll.next line

def close (cursor : OpenCursor) (line : Line) : Except Error Unit × OpenCursor × Line :=
  match cursor with
  | documents s =>
    let (result, s, line) := s.close line
    (result, documents s, line)
  | hits s => onLine hits s (.ok ()) Cursor.close line
  | scroll s => onLine scroll s (.ok ()) Scroll.close line

end OpenCursor

structure Session where
  dialect : Dialect
  workspace : Workspace
  root : Ref
  classes : List RecordClass
  objects : Table String Session.Argument
  cursors : List OpenCursor
  /-- No cursor gives more hits than this. -/
  hitBound : Nat

namespace Session

inductive Result where
  /-- The target itself, or an object that has no form of its own. -/
  | nothing
  | value (v : Value)
  | builder (ref : Ref)
  | contents (ref : Ref)
  | cursor
  | item (v : Value)
  | stop

/-- What a step shows and the object that can be kept under a name. -/
structure Gain where
  result : Result
  object : Option Argument

/-- How a value is shown that a step gives back. -/
def Result.ofValue : Value → Result
  | .builder ref => builder ref
  | .handle (.cursor _) => cursor
  | .handle _ => nothing
  | v => value v

namespace Gain

def ofValue (v : Value) : Gain := ⟨.ofValue v, some (.value v)⟩

def done : Gain := ofValue .null

end Gain

abbrev Attempt := Except Error Gain × Session

def store (s : Session) : Store := s.workspace.store

def withStore (s : Session) (store : Store) : Session :=
  { s with workspace := { s.workspace with store := store } }

def withLine (s : Session) (line : Line) : Session :=
  { s with workspace := { s.workspace with line := line } }

def refuse (s : Session) (e : Error) : Attempt := (.error e, s)

def display (s : Session) (v : Except Error Value) : Attempt := (v.map Gain.ofValue, s)

def exchanged {α : Type} (s : Session) (shown : α → Value) (outcome : Except Error α × Line) :
    Attempt :=
  (outcome.1.map (fun a => .ofValue (shown a)), s.withLine outcome.2)

def addBuilder (s : Session) (b : Builder) : Attempt :=
  let (ref, store) := s.store.add b
  (.ok (.ofValue (.builder ref)), s.withStore store)

def addCursor (s : Session) (c : OpenCursor) : Attempt :=
  (.ok (.ofValue (.handle (.cursor s.cursors.length))), { s with cursors := s.cursors ++ [c] })

def reading {α : Type} (s : Session) (signature : Signature Argument α) (args : Arguments Argument)
    (f : α → Attempt) : Attempt :=
  match signature.read args with
  | .ok a => f a
  | .error m => s.refuse (.misuse m)

def scope (s : Session) : Scope :=
  ⟨s.dialect, s.objects, s.classes, (s.store.get s.root).keyName⟩

end Session

end DocumentSearch
