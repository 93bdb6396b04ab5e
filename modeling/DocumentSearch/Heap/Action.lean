import DocumentSearch.Execution.Action
import DocumentSearch.Heap.Edit

/-!
# Actions on builders as objects

A copy gets new lists, a new table of options and an empty summary, but its lists hold the same
clauses. Counting, and deleting by an id, work on copies that nobody keeps.
-/
namespace DocumentSearch

namespace Heap

/-- What a copy of a builder is given. -/
def copied (h : Heap) (o : Body) : (s : Slot) → s.kind.Content
  | .summary => Summary.blank
  | s => h.own o s

def cloneBody (h : Heap) (o : Body) : Body × Heap :=
  h.renewAll { o with cache := none } (h.copied o)

/-- The attributes of a copy that can be given up. -/
def reset? (h : Heap) (o : Body) : String → Option (Body × Heap)
  | "columns" => some (h.renew o .columns [])
  | "wheres" => some (h.renew o (.bucket .query) [])
  | "filters" => some (h.renew o (.bucket .filter) [])
  | "post_filters" => some (h.renew o (.bucket .postFilter) [])
  | "aggregations" => some (h.renew o .aggregations [])
  | "orders" => some (h.renew o .orders [])
  | "limit_value" => some ({ o with limit := none }, h)
  | "offset_value" => some ({ o with offset := 0 }, h)
  | _ => none

def resetOne (h : Heap) (o : Body) (name : Value) : Except Error (Body × Heap) := do
  let name ← name.asKey
  match name.string?.bind (h.reset? o) with
  | some reset => return reset
  | none => throw (.invalidQuery (.notResettable name))

def resetAll (h : Heap) (o : Body) : List Value → Except Error Body × Heap
  | [] => (.ok o, h)
  | name :: rest =>
    match h.resetOne o name with
    | .ok (o, h) => resetAll h o rest
    | .error e => (.error e, h)

def cloneWithout (h : Heap) (o : Body) (names : List Value) : Except Error Body × Heap :=
  let copy := h.cloneBody o
  copy.2.resetAll copy.1 names

/-- A reading changes the summary in its place. -/
def results (d : Dialect) (h : Heap) (o : Body) (line : Line) :
    Except Error (List Value) × Body × Heap × Line :=
  let outcome := (h.view o).results d h.store line
  (outcome.1, { o with cache := outcome.2.1.cache },
    h.change o .summary fun _ => outcome.2.1.summary, outcome.2.2)

/-- The columns of one reading are a list of its own, which gives way to the one that was there. -/
def read (d : Dialect) (h : Heap) (o : Body) (columns : Value) (line : Line) :
    Except Error (List Value) × Body × Heap × Line :=
  match (h.view o).columnsFor columns with
  | .error e => (.error (.misuse e), o, h, line)
  | .ok chosen =>
    let chosen :=
      if (h.view o).columns.isEmpty && columns.truthy then h.renew o .columns chosen else (o, h)
    let outcome := chosen.2.results d chosen.1 line
    (outcome.1,
      { outcome.2.1 with slots := Function.update outcome.2.1.slots .columns (o.slots .columns) },
      outcome.2.2)

def readFirst (d : Dialect) (h : Heap) (o : Body) (columns : Value) (line : Line) :
    Except Error Value × Body × Heap × Line :=
  match h.read d { o with limit := some (.int 1) } columns line with
  | (.ok documents, o, h, line) => (.ok (documents.head?.getD .null), o, h, line)
  | (.error e, o, h, line) => (.error e, o, h, line)

def paginate (d : Dialect) (h : Heap) (o : Body) (page perPage : Value) (line : Line) :
    Except Error Page × Body × Heap × Line :=
  match (h.view o).withPage page perPage with
  | (.error e, b) => (.error e, o.assign b, h, line)
  | (.ok (), b) =>
    match h.read d (o.assign b) .null line with
    | (.error e, o, h, line) => (.error e, o, h, line)
    | (.ok documents, o, h, line) => ((h.view o).pageOf documents page perPage, o, h, line)

def summaryRead (d : Dialect) (h : Heap) (o : Body) (line : Line) (f : Summary → Value) :
    Except Error Value × Body × Heap × Line :=
  match h.results d o line with
  | (.error e, o, h, line) => (.error e, o, h, line)
  | (.ok _, o, h, line) => (.ok (f (h.own o .summary)), o, h, line)

/-- A copy without columns and orders, for a single document. -/
def counter (h : Heap) (o : Body) : Body × Heap :=
  let copy := h.cloneBody o
  let copy := copy.2.renew copy.1 .columns []
  let copy := copy.2.renew copy.1 .orders []
  ({ copy.1 with limit := some (.int 1), offset := 0 }, copy.2)

def counting (d : Dialect) (h : Heap) (o : Body) (line : Line) : Except Error Value × Heap × Line :=
  match o.cache with
  | some _ => (Misuse.lift (h.view o).summary.total, h, line)
  | none =>
    let counter := h.counter o
    match counter.2.read d counter.1 (.list [.str "_id"]) line with
    | (.error e, _, h, line) => (.error e, h, line)
    | (.ok _, o, h, line) => (Misuse.lift (h.view o).summary.total, h, line)

/-- A copy without clauses that is given the id of a document. -/
def keyed (h : Heap) (o : Body) (id : Value) : Except Error Body × Heap :=
  let copy := h.cloneBody o
  let copy := copy.2.renew copy.1 (.bucket .query) []
  let copy := copy.2.renew copy.1 (.bucket .filter) []
  let copy := copy.2.renew copy.1 (.bucket .postFilter) []
  let criterion := Criterion.comparison o.keyName (some (.str "=")) (some id) Criterion.conjunction
  match criterion.clauses copy.2.store ⟨copy.2.store.size⟩ with
  | .error e => (.error e, copy.2)
  | .ok clauses => (.ok copy.1, copy.2.place copy.1 clauses)

def delete (d : Dialect) (h : Heap) (o : Body) (id : Value) (line : Line) :
    Except Error Bool × Heap × Line :=
  if id.isNull then
    let outcome := (h.view o).delete d h.store id line
    (outcome.1, h, outcome.2)
  else
    let copy := h.keyed o id
    let outcome := Builder.write "delete" (do d.deleteRequest (copy.2.view (← copy.1)))
      (fun reply => do return (← reply.get "result" .null) == "deleted") line
    (outcome.1, copy.2, outcome.2)

end Heap

/-- A heap with the connection that its builders share. -/
structure Memory where
  heap : Heap
  line : Line

namespace Memory

def workspace (m : Memory) : Workspace := ⟨m.heap.store, m.line⟩

abbrev Outcome := Except Error ActionResult × Memory

def adding (m : Memory) : Except Error Body × Heap → Outcome
  | (.error e, h) => (.error e, { m with heap := h })
  | (.ok o, h) => (.ok (.builder (h.addBody o).1), { m with heap := (h.addBody o).2 })

def reading {α : Type} (ref : Ref) (shown : α → Value) :
    Except Error α × Body × Heap × Line → Outcome
  | (result, o, h, line) => (result.map (fun a => .value (shown a)), ⟨h.setBody ref o, line⟩)

def writing {α : Type} (shown : α → Value) : Except Error α × Heap × Line → Outcome
  | (result, h, line) => (result.map (fun a => .value (shown a)), ⟨h, line⟩)

def perform (d : Dialect) (m : Memory) (ref : Ref) : Action → Outcome
  | .fluent call =>
    let outcome := m.heap.call ref call
    (outcome.1.map (fun _ => .self), { m with heap := outcome.2 })
  | .clone =>
    let copy := m.heap.cloneBody (m.heap.body ref)
    m.adding (.ok copy.1, copy.2)
  | .cloneWithout names =>
    match names.items with
    | .error e => (.error (.misuse e), m)
    | .ok names => m.adding (m.heap.cloneWithout (m.heap.body ref) names)
  | .newQuery =>
    let new := m.heap.newBody (m.heap.body ref).keyName
    m.adding (.ok new.1, new.2)
  | .read columns => reading ref Value.list (m.heap.read d (m.heap.body ref) columns m.line)
  | .readFirst columns => reading ref id (m.heap.readFirst d (m.heap.body ref) columns m.line)
  | .paginate perPage page =>
    reading ref Page.value (m.heap.paginate d (m.heap.body ref) page perPage m.line)
  | .aggregationResults =>
    reading ref id (m.heap.summaryRead d (m.heap.body ref) m.line Summary.aggregations)
  | .duration => reading ref id (m.heap.summaryRead d (m.heap.body ref) m.line Summary.took)
  | .rawReply => reading ref id (m.heap.summaryRead d (m.heap.body ref) m.line Summary.rawReply)
  | .count => writing id (m.heap.counting d (m.heap.body ref) m.line)
  | .delete id => writing Value.bool (m.heap.delete d (m.heap.body ref) id m.line)
  | action =>
    let outcome := action.perform d m.workspace ref
    (outcome.1, { m with line := outcome.2.line })

end Memory

end DocumentSearch
