import DocumentSearch.Edit
import DocumentSearch.Heap.Basic

/-!
# Edits of builders as objects

An edit changes what its builder has in its place. What it looks at, and whether it is refused, is
as for builders as values.
-/
namespace DocumentSearch

/-- Takes over from a value what is not in a slot. -/
def Body.assign (o : Body) (b : Builder) : Body :=
  { o with
    index := b.index
    limit := b.limit
    offset := b.offset
    expandInnerHits := b.expandInnerHits
    routing := b.routing
    parentId := b.parentId }

namespace Heap

/-- A refused edit of this form leaves everything as it was. -/
def settle (h : Heap) : Except Error Heap → Except Error Unit × Heap
  | .ok h' => (.ok (), h')
  | .error e => (.error e, h)

/-- Makes a clause, with a table of its own for its options. -/
def addClause (h : Heap) (c : Clause) : Address × Heap :=
  let table := h.alloc .table c.options
  table.2.alloc .clause ⟨c.connective, c.negated, table.1, c.condition⟩

/-- Puts clauses behind those of a bucket, in the list that is there. -/
def append (h : Heap) (o : Body) (k : Bucket) (addresses : List Address) : Heap :=
  h.change o (.bucket k) (· ++ addresses)

/-- Makes clauses and puts each into its own bucket, in order. -/
def place (h : Heap) (o : Body) (clauses : List (Bucket × Clause)) : Heap :=
  clauses.foldl (fun h c => (h.addClause c.2).2.append o c.1 [(h.addClause c.2).1]) h

/-- Gives a clause a new table of options. -/
def setOptions (h : Heap) (options : Entries) (a : Address) : Heap :=
  let table := h.alloc .table options
  table.2.write .clause a { h.get .clause a with options := table.1 }

/-- Puts a clause that is there already behind those of a bucket. -/
def share (h : Heap) (ref : Ref) (a : Address) (bucket : Value) : Except Error Unit × Heap :=
  h.settle do return h.append (h.body ref) (← bucket.bucket) [a]

def count (h : Heap) (o : Body) (k : Bucket) : Nat := (h.own o (.bucket k)).length

/-- The clauses of a bucket behind the first ones. -/
def behind (h : Heap) (o : Body) (before : Bucket → Nat) (k : Bucket) : List Address :=
  (h.own o (.bucket k)).drop (before k)

/-- The options are given to all clauses that the call has put behind those that were there. -/
def withClauseOptions (h : Heap) (ref : Ref) (kind : Value) (arguments : Arguments Value)
    (options : Value) : Except Error Unit × Heap :=
  match Builder.clausesOf h.store ref kind arguments with
  | .error e => (.error e, h)
  | .ok clauses =>
    let o := h.body ref
    let before := h.count o
    let h := h.place o clauses
    match options.toEntries with
    | .ok options =>
      (.ok (), (Bucket.all.flatMap (h.behind o before)).foldl (setOptions · options) h)
    | .error e => (if clauses.isEmpty then .ok () else .error (.misuse e), h)

/-- The clauses go to the places that they belong to, and those for the query from there to the
target. -/
def filtered (h : Heap) (ref : Ref) (kind : Value) (arguments : Arguments Value)
    (bucket : Value) : Except Error Heap := do
  let target ← bucket.bucket
  if target = .query then throw (.invalidQuery .filterTarget)
  let clauses ← Builder.clausesOf h.store ref kind arguments
  let o := h.body ref
  let before := h.count o
  let h := h.place o clauses
  let added := h.behind o before .query
  let h := h.change o (.bucket .query) (List.take (before .query))
  return h.append o target added

/-- Puts an aggregation behind those that a builder has, unless its key is taken. -/
def addAggregation (h : Heap) (ref : Ref) (a : Aggregation) : Except Error Heap := do
  let _ ← (h.view (h.body ref)).withAggregation a
  return h.change (h.body ref) .aggregations (· ++ [a])

def edit (h : Heap) (ref : Ref) : Edit → Except Error Unit × Heap
  | .select columns => h.settle do
    let b ← (h.view (h.body ref)).withColumns columns
    let renewed := h.renew (h.body ref) .columns b.columns
    return renewed.2.setBody ref renewed.1
  | .refresh option => h.settle do
    let _ ← (h.view (h.body ref)).withRefresh option
    return h.change (h.body ref) .options (·.insert "refresh" option)
  | .conflicts option => h.settle do
    let _ ← (h.view (h.body ref)).withConflicts option
    return h.change (h.body ref) .options (·.insert "conflicts" option)
  | .clause c bucket => h.settle do
    let k ← bucket.bucket
    let added := h.addClause c
    return added.2.append (h.body ref) k [added.1]
  | .criterion c => h.settle do return h.place (h.body ref) (← c.clauses h.store ref)
  | .withOptions kind arguments options => h.withClauseOptions ref kind arguments options
  | .filter kind arguments bucket => h.settle (h.filtered ref kind arguments bucket)
  | .aggregation key type args sub => h.settle do
    let sub ← Builder.subOf key sub
    h.addAggregation ref (← Aggregation.make key type args sub)
  | .order column direction options => h.settle do
    let order ← Order.request column direction options
    return h.change (h.body ref) .orders (· ++ [order])
  | e =>
    let outcome := e.apply h.store ref (h.view (h.body ref))
    (outcome.1, h.setBody ref ((h.body ref).assign outcome.2))

/-- A new builder, with nothing in its slots. -/
def newBody (h : Heap) (keyName : Value) : Body × Heap :=
  h.renewAll (.blank keyName) fun s => s.kind.blank

mutual

def call (h : Heap) (ref : Ref) : FluentCall → Except Error Unit × Heap
  | .edit e => h.edit ref e
  | .preset key type args calls =>
    let new := h.newBody (h.body ref).keyName
    let sub := new.2.addBody new.1
    match callAll sub.2 sub.1 calls with
    | (.error e, h) => (.error e, h)
    | (.ok (), h) =>
      h.settle do h.addAggregation ref (← Aggregation.make key type args (some sub.1))
termination_by structural call => call

/-- Calls in order, up to the first one that is refused. -/
def callAll (h : Heap) (ref : Ref) : List FluentCall → Except Error Unit × Heap
  | [] => (.ok (), h)
  | first :: rest =>
    match call h ref first with
    | (.ok (), h) => callAll h ref rest
    | (.error e, h) => (.error e, h)
termination_by structural calls => calls

end

end Heap

end DocumentSearch
