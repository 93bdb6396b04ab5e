import DocumentSearch.Cursor.Scroll
import DocumentSearch.Cursor.Window

/-!
# Cursors

A cursor gives the hits of a window one by one. The first batch comes from a search that opens a
scroll context, the further ones from a scroll, which then takes care of the context. Nothing is
sent before the first step.
-/
namespace DocumentSearch

inductive Cursor where
  | fresh (query : Value)
  /-- Hits of the first batch are left, or it was empty from the start. -/
  | first (id : Value) (window : Window) (hadHits : Bool) (consumed : Nat) (pending : List Value)
  | further (scroll : Scroll) (skip : Nat) (consumed : Nat)
  | finished

namespace Cursor

def release (c : Connection) (id : Value) (given : Pull) : Pull × Cursor × Connection :=
  if id.truthy then
    match c.clearScroll id with
    | (.ok (), c) => (given, finished, c)
    | (.error e, c) => (.error e, finished, c)
  else (given, finished, c)

/-- Takes hits from the scroll until one lies behind the skipped ones. -/
def nextFurther (scroll : Scroll) (skip : Nat) (consumed : Nat) (c : Connection) :
    Pull × Cursor × Connection :=
  match scroll.next c with
  | (.error e, _, c) => (.error e, finished, c)
  | (.ok none, _, c) => (.ok none, finished, c)
  | (.ok (some hit), scroll, c) =>
    if skip < consumed + 1 then (.ok (some hit), further scroll skip (consumed + 1), c)
    else nextFurther scroll skip (consumed + 1) c
termination_by skip - consumed

/-- What a scroll needs to know to go on behind the first batch. -/
def onward (w : Window) (consumed : Nat) : Except Misuse (Nat × Value) := do
  return (← Window.skipOf w.skip, ← w.remaining consumed)

/-- Goes on behind the first batch, unless everything is read or there is no context. -/
def afterFirst (id : Value) (w : Window) (hadHits : Bool) (consumed : Nat) (c : Connection) :
    Pull × Cursor × Connection :=
  if !hadHits || w.reached consumed || !id.truthy then release c id (.ok none)
  else
    match onward w consumed with
    | .ok (skip, remaining) =>
      nextFurther (.fresh id c.config.scrollTimeout remaining) skip consumed c
    | .error e => release c id (.error (.misuse e))

def nextFirst (id : Value) (w : Window) (hadHits : Bool) (c : Connection) :
    Nat → List Value → Pull × Cursor × Connection
  | consumed, [] => afterFirst id w hadHits consumed c
  | consumed, hit :: rest =>
    if w.reached consumed then afterFirst id w hadHits consumed c
    else
      match Window.skipOf w.skip with
      | .error e => release c id (.error (.misuse e))
      | .ok skip =>
        if skip < consumed + 1 then (.ok (some hit), first id w hadHits (consumed + 1) rest, c)
        else nextFirst id w hadHits c (consumed + 1) rest

/-- The id of the context and the hits in the first reply. -/
def readFirst (reply : Value) : Except Misuse (Value × Value) := do
  return (← reply.get "_scroll_id" .null, ← reply.batch)

def firstQuery (query : Value) (scrollSize : Number) (timeout : Value) :
    Except Misuse (Window × Value) := do
  let query ← query.entries
  let body ← ((query.find? "body").getD (.map [])).toEntries
  let w ← Window.ofBody body scrollSize
  match query.find? "index" with
  | some index =>
    return (w, .map [("index", index), ("body", .map (w.firstBody body)), ("scroll", timeout)])
  | none => throw .illTyped

/-- Once the id is known it is released even if the hits turn out to be none. -/
def start (query : Value) (c : Connection) : Pull × Cursor × Connection :=
  match firstQuery query c.config.scrollSize c.config.scrollTimeout with
  | .error e => (.error (.misuse e), finished, c)
  | .ok (w, query) =>
    match c.select query .null with
    | (.error e, c) => (.error e, finished, c)
    | (.ok reply, c) =>
      match readFirst reply with
      | .error e => (.error (.misuse e), finished, c)
      | .ok (id, hits) =>
        match hits.items with
        | .error e => release c id (.error (.misuse e))
        | .ok pending => nextFirst id w hits.truthy c 0 pending

def next (s : Cursor) (c : Connection) : Pull × Cursor × Connection :=
  match s with
  | fresh query => start query c
  | first id w hadHits consumed pending => nextFirst id w hadHits c consumed pending
  | further scroll skip consumed => nextFurther scroll skip consumed c
  | finished => (.ok none, finished, c)

/-- A cursor that never started has nothing to release. -/
def close (s : Cursor) (c : Connection) : Except Error Unit × Cursor × Connection :=
  match s with
  | first id _ _ _ _ =>
    match release c id (.ok none) with
    | (.ok _, s, c) => (.ok (), s, c)
    | (.error e, s, c) => (.error e, s, c)
  | further scroll _ _ =>
    let (result, _, c) := scroll.close c
    (result, finished, c)
  | _ => (.ok (), finished, c)

end Cursor

/-- The next hits of a cursor, at most `n` of them, up to its end. -/
def exhaust {σ γ : Type} (next : σ → γ → Pull × σ × γ) :
    Nat → σ → γ → Except Error (List Value) × σ × γ
  | 0, s, c => (.ok [], s, c)
  | n + 1, s, c =>
    match next s c with
    | (.error e, s, c) => (.error e, s, c)
    | (.ok none, s, c) => (.ok [], s, c)
    | (.ok (some hit), s, c) =>
      match exhaust next n s c with
      | (.ok hits, s, c) => (.ok (hit :: hits), s, c)
      | failed => failed

end DocumentSearch
