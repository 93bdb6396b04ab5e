import DocumentSearch.Session.Attribute
import DocumentSearch.Value.View

/-!
# Keeping views up to date

A view shows what its builder has, wherever the view is kept: under a name, in a builder, in a
cursor that has not started or in the log. After every step all of them are brought up to date.
-/
namespace DocumentSearch

def Part.blank : Part → Value
  | .options => .map []
  | _ => .list []

namespace Store

/-- What a part of a builder holds now, inside the views `around` it. Nothing is seen in a view of
itself, so at most `depth` views lie inside one another. -/
def lookWithin (store : Store) : Nat → List (Part × Ref) → Part → Ref → Value
  | 0, _, part, _ => part.blank
  | depth + 1, around, part, ref =>
    if around.contains (part, ref) then part.blank
    else
      ((store.get ref).contents part).showing (store.lookWithin depth ((part, ref) :: around))

/-- Six parts of each builder can be viewed. -/
def look (store : Store) (part : Part) (ref : Ref) : Value :=
  store.lookWithin (6 * store.size) [] part ref

/-- A value as it reads now. -/
def now (store : Store) (v : Value) : Value := v.showing store.look

end Store

namespace Builder

def showing (look : Part → Ref → Value) (b : Builder) : Builder :=
  { b with
    index := b.index.showing look
    columns := b.columns.map (Value.showing look)
    wheres := b.wheres.map (Clause.showing look)
    filters := b.filters.map (Clause.showing look)
    postFilters := b.postFilters.map (Clause.showing look)
    aggregations := b.aggregations.map (Aggregation.showing look)
    orders := b.orders.map (Order.showing look)
    routing := b.routing.showing look
    parentId := b.parentId.showing look }

end Builder

namespace Session

def cursorNow (store : Store) : OpenCursor → OpenCursor
  | .hits (.fresh query) => .hits (.fresh (store.now query))
  | cursor => cursor

def logNow (store : Store) (entry : LogEntry) : LogEntry :=
  ⟨store.now entry.query, store.now entry.bindings⟩

def argumentNow (store : Store) : Argument → Argument
  | .value v => .value (store.now v)
  | preset => preset

def refresh (s : Session) : Session :=
  let store := s.store
  let shown : Store := ⟨store.builders.map (Builder.showing store.look)⟩
  let line := s.workspace.line.map (fun c => { c with log := c.log.map (logNow store) })
  { s with
    workspace := ⟨shown, line⟩
    objects := Table.mapValues (argumentNow store) s.objects
    cursors := s.cursors.map (cursorNow store) }

end Session

end DocumentSearch
