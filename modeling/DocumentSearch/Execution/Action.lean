import DocumentSearch.Execution.Write
import DocumentSearch.Cursor.Documents

/-!
# Actions on builders

Everything that can be done with a builder: changing it, copying it, writing out its request, and
reading and writing through its connection. An action happens in a workspace, which is the store of
builders with the connection that they share.
-/
namespace DocumentSearch

structure Workspace where
  store : Store
  line : Line

inductive Action where
  | fluent (call : FluentCall)
  | clone
  | cloneWithout (names : Value)
  | newQuery
  | searchRequest
  | read (columns : Value)
  | readFirst (columns : Value)
  | openCursor
  | paginate (perPage page : Value)
  | count
  | aggregationResults
  | duration
  | rawReply
  | insert (values : Value)
  | update (values : Value)
  | updateByQuery (script params : Value)
  | delete (id : Value)
  | routing
  | parentId
  | option (name : Value)

/-- What an action gives: the builder itself, another builder, a value or a cursor. -/
inductive ActionResult where
  | self
  | builder (ref : Ref)
  | value (v : Value)
  | cursor (cursor : DocumentCursor)

namespace Action

abbrev Outcome := Except Error ActionResult × Workspace

/-- A reading puts the builder back into the store. -/
def reading {α : Type} (w : Workspace) (ref : Ref) (shown : α → Value)
    (outcome : Except Error α × Builder × Line) : Outcome :=
  let (result, b, line) := outcome
  (result.map (fun a => .value (shown a)), ⟨w.store.set ref b, line⟩)

/-- A writing leaves every builder alone. -/
def writing {α : Type} (w : Workspace) (shown : α → Value) (outcome : Except Error α × Line) :
    Outcome :=
  let (result, line) := outcome
  (result.map (fun a => .value (shown a)), { w with line := line })

def looking (w : Workspace) (v : Except Error Value) : Outcome := (v.map ActionResult.value, w)

def adding (w : Workspace) (b : Except Error Builder) : Outcome :=
  match b with
  | .error e => (.error e, w)
  | .ok b =>
    let (ref, store) := w.store.add b
    (.ok (.builder ref), { w with store := store })

def optionOf (b : Builder) (name : Value) : Except Misuse Value := do
  return (b.options.find? (← name.asKey)).getD .null

def perform (d : Dialect) (w : Workspace) (ref : Ref) : Action → Outcome
  | fluent call =>
    let (result, store) := call.perform w.store ref
    (result.map (fun _ => .self), { w with store := store })
  | clone => adding w (.ok (w.store.get ref).clone)
  | cloneWithout names => adding w do (w.store.get ref).cloneWithout (← names.items)
  | newQuery => adding w (.ok (.blank (w.store.get ref).keyName))
  | searchRequest =>
    looking w do return .map (← d.searchRequest w.store (w.store.get ref)).toEntries
  | read columns => reading w ref Value.list ((w.store.get ref).read d w.store columns w.line)
  | readFirst columns => reading w ref id ((w.store.get ref).readFirst d w.store columns w.line)
  | openCursor => (.ok (.cursor (.fresh ref)), w)
  | paginate perPage page =>
    reading w ref Page.value
      ((w.store.get ref).paginate d w.store page perPage w.line)
  | count => writing w id ((w.store.get ref).count d w.store w.line)
  | aggregationResults =>
    reading w ref id ((w.store.get ref).summaryRead d w.store w.line Summary.aggregations)
  | duration => reading w ref id ((w.store.get ref).summaryRead d w.store w.line Summary.took)
  | rawReply => reading w ref id ((w.store.get ref).summaryRead d w.store w.line Summary.rawReply)
  | insert values => writing w Value.bool ((w.store.get ref).insert d values w.line)
  | update values => writing w Value.bool ((w.store.get ref).update d values w.line)
  | updateByQuery script params =>
    writing w id ((w.store.get ref).updateByQuery d w.store script params w.line)
  | delete id => writing w Value.bool ((w.store.get ref).delete d w.store id w.line)
  | routing => looking w (.ok (w.store.get ref).routing)
  | parentId => looking w (.ok (w.store.get ref).parentId)
  | option name => looking w (Misuse.lift (optionOf (w.store.get ref) name))

end Action

end DocumentSearch
