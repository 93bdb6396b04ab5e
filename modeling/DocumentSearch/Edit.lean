import DocumentSearch.Criterion

/-!
# Edits of builders

An edit changes one builder. Its outcome is the builder that it leaves behind, together with the
error if it was refused.
-/
namespace DocumentSearch

inductive Edit where
  | index (index : Value)
  | select (columns : List Value)
  | limit (value : Value)
  | offset (value : Value)
  | page (page perPage : Value)
  | routing (value : Value)
  | parentId (value : Value)
  | expandInnerHits
  | refresh (option : Value)
  | conflicts (option : Value)
  | clause (clause : Clause) (bucket : Value)
  | criterion (criterion : Criterion)
  | withOptions (kind : Value) (arguments : Arguments Value) (options : Value)
  | filter (kind : Value) (arguments : Arguments Value) (bucket : Value)
  | aggregation (key type args sub : Value)
  | order (column direction options : Value)

namespace Value

def bucket (v : Value) : Except Error Bucket :=
  match v.string?.bind Bucket.ofName? with
  | some b => .ok b
  | none => .error (.misuse .badValue)

def clauseKind (v : Value) : Except Error ClauseKind :=
  match v.string?.bind ClauseKind.ofName? with
  | some k => .ok k
  | none => .error (.invalidQuery (.unknownKind v))

end Value

/-- A refused edit of this form leaves the builder as it was. -/
def Edit.settle (b : Builder) : Except Error Builder → Except Error Unit × Builder
  | .ok b' => (.ok (), b')
  | .error e => (.error e, b)

namespace Builder

/-- A single value that is no text gives the columns one by one. -/
def withColumns (b : Builder) (columns : List Value) : Except Error Builder :=
  match columns with
  | [.str s] => .ok { b with columns := [.str s] }
  | [v] => do return { b with columns := ← v.items }
  | columns => .ok { b with columns := columns }

def limitOf : Value → Except Error (Option Number)
  | .null => .ok none
  | v => do
    let n ← v.number
    if n.lt (.int 0) then throw (.invalidQuery (.negativeLimit n)) else return some n

def withLimit (b : Builder) (value : Value) : Except Error Builder := do
  return { b with limit := ← limitOf value }

/-- An offset below zero is no offset. -/
def withOffset (b : Builder) (value : Value) : Except Error Builder := do
  return { b with offset := (← value.whole).toNat }

/-- No sequence is longer than this. -/
def longestSequence : Int := 9223372036854775807

/-- Digits read as one number are at most as many. -/
def longestNumeral : Nat := 4300

def repeated {α : Type} (count : Nat) (items : List α) : List α :=
  (List.replicate count items).flatten

/-- What a whole number of pages of a given length makes up. A sequence is repeated, and a text may
be a numeral still; a text repeated more often than numerals have digits is none. -/
def pages (count : Int) (perPage : Value) : Except Misuse Value :=
  let times := Nat.min count.toNat (longestNumeral + 1)
  match perPage.seen with
  | .str s => sized (.str (String.ofList (repeated times s.toList)))
  | .bytes bs => sized (.bytes (repeated times bs))
  | .list items => sized (.list items)
  | .tuple items => sized (.tuple items)
  | _ => .error .illTyped
where
  sized (v : Value) : Except Misuse Value :=
    if longestSequence < count then .error .overflow else .ok v

/-- The number of documents before a page; pages are counted from 1. -/
def pageStart (page perPage : Value) : Except Error Value := do
  let page := (Number.int 1).max (← page.number)
  let before ← page.sub (.int 1)
  match perPage.number?, before.whole? with
  | some perPage, _ => return .ofNumber (← before.mul perPage)
  | none, some count => pages count perPage
  | none, none => throw (.misuse .illTyped)

/-- The start of a page is set before its length is checked. -/
def withPage (b : Builder) (page perPage : Value) : Except Error Unit × Builder :=
  match pageStart page perPage >>= b.withOffset with
  | .error e => (.error e, b)
  | .ok b => Edit.settle b (b.withLimit perPage)

/-- Whether an option is one of true, false and `wait_for`; numbers count by their value. -/
def isRefreshOption (option : Value) : Bool :=
  match option.number?, option with
  | some n, _ => n.eq (.int 0) || n.eq (.int 1)
  | none, .str s => s = "wait_for"
  | none, _ => false

def withRefresh (b : Builder) (option : Value) : Except Error Builder :=
  if isRefreshOption option then .ok { b with options := b.options.insert "refresh" option }
  else .error (.invalidQuery (.refreshOption option))

def conflictOptions : List Value := ["abort", "proceed"]

def withConflicts (b : Builder) (option : Value) : Except Error Builder :=
  if conflictOptions.contains option then
    .ok { b with options := b.options.insert "conflicts" option }
  else .error (.invalidQuery (.conflictOption option))

/-- The clauses that a call of a kind adds to the builder at a place. -/
def clausesOf (store : Store) (self : Ref) (kind : Value) (arguments : Arguments Value) :
    Except Error (List (Bucket × Clause)) := do
  let kind ← kind.clauseKind
  let criterion ← (Criterion.ofKind kind).read arguments
  criterion.clauses store self

/-- Clauses for the query go to the target; those that belong elsewhere come first, in their
places. -/
def placeFiltered (b : Builder) (target : Bucket) (clauses : List (Bucket × Clause)) : Builder :=
  (b.place (clauses.filter (fun c => c.1 ≠ .query))).append target
    ((clauses.filter (fun c => c.1 = .query)).map Prod.snd)

def filtered (store : Store) (self : Ref) (b : Builder) (kind : Value)
    (arguments : Arguments Value) (bucket : Value) : Except Error Builder := do
  let target ← bucket.bucket
  if target = .query then throw (.invalidQuery .filterTarget)
  return b.placeFiltered target (← clausesOf store self kind arguments)

/-- The new clauses stay, with the options they had, when the given options are no table. -/
def withClauseOptions (store : Store) (self : Ref) (b : Builder) (kind : Value)
    (arguments : Arguments Value) (options : Value) : Except Error Unit × Builder :=
  match clausesOf store self kind arguments with
  | .error e => (.error e, b)
  | .ok clauses =>
    match options.toEntries with
    | .ok options =>
      (.ok (), b.place (clauses.map (fun c => (c.1, { c.2 with options := options }))))
    | .error e => (if clauses.isEmpty then .ok () else .error (.misuse e), b.place clauses)

def subOf (key : Value) : Value → Except Error (Option Ref)
  | .null => .ok none
  | .builder ref => .ok (some ref)
  | v => .error (.invalidQuery (.subAggregations key v))

/-- A key is used once among the aggregations of a builder. -/
def withAggregation (b : Builder) (a : Aggregation) : Except Error Builder :=
  if b.aggregations.any (fun other => other.key = a.key) then
    .error (.invalidQuery (.duplicateAggregation a.key))
  else .ok { b with aggregations := b.aggregations ++ [a] }

end Builder

namespace Edit

def apply (store : Store) (self : Ref) (b : Builder) : Edit → Except Error Unit × Builder
  | index v => (.ok (), { b with index := v })
  | select columns => settle b (b.withColumns columns)
  | limit v => settle b (b.withLimit v)
  | offset v => settle b (b.withOffset v)
  | page p perPage => b.withPage p perPage
  | routing v => (.ok (), { b with routing := v })
  | parentId v => (.ok (), { b with parentId := v })
  | expandInnerHits => (.ok (), { b with expandInnerHits := true })
  | refresh option => settle b (b.withRefresh option)
  | conflicts option => settle b (b.withConflicts option)
  | clause c bucket => settle b do return b.append (← bucket.bucket) [c]
  | criterion c => settle b do return b.place (← c.clauses store self)
  | withOptions kind arguments options => b.withClauseOptions store self kind arguments options
  | filter kind arguments bucket => settle b (b.filtered store self kind arguments bucket)
  | aggregation key type args sub => settle b do
    let sub ← Builder.subOf key sub
    b.withAggregation (← Aggregation.make key type args sub)
  | order column direction options => settle b do
    return { b with orders := b.orders ++ [← Order.request column direction options] }

end Edit

/-- A call on a builder: an edit, or an aggregation with the calls that fill the builder inside
it. -/
inductive FluentCall where
  | edit (edit : Edit)
  | preset (key type args : Value) (calls : List FluentCall)

namespace FluentCall

/-- Adds the aggregation of a preset once the builder inside it is filled. -/
def attach (b : Builder) (key type args : Value) (sub : Ref) : Except Error Builder := do
  b.withAggregation (← Aggregation.make key type args (some sub))

mutual

def perform (store : Store) (ref : Ref) : FluentCall → Except Error Unit × Store
  | edit e =>
    let (result, b) := e.apply store ref (store.get ref)
    (result, store.set ref b)
  | preset key type args calls =>
    let (sub, store) := store.add (.blank (store.get ref).keyName)
    match performAll store sub calls with
    | (.error e, store) => (.error e, store)
    | (.ok (), store) =>
      let (result, b) := Edit.settle (store.get ref) (attach (store.get ref) key type args sub)
      (result, store.set ref b)
termination_by structural call => call

/-- Calls in order, up to the first one that is refused. -/
def performAll (store : Store) (ref : Ref) : List FluentCall → Except Error Unit × Store
  | [] => (.ok (), store)
  | call :: rest =>
    match perform store ref call with
    | (.ok (), store) => performAll store ref rest
    | (.error e, store) => (.error e, store)
termination_by structural calls => calls

end

end FluentCall

end DocumentSearch
