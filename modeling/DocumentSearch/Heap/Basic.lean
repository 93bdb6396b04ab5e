import Mathlib.Logic.Function.Basic
import DocumentSearch.Store

/-!
# Heaps of objects

A builder is an object whose lists, options and summary are objects of their own, and the clauses in
its lists are objects too, each with a table of options. Several builders may refer to one object,
and what is changed in its place changes for all of them.
-/
namespace DocumentSearch

/-- The place of an object among those of its kind. -/
abbrev Address := Nat

inductive ObjectKind where
  | clause
  | clauses
  | columns
  | aggregations
  | orders
  | table
  | summary
  deriving DecidableEq, Repr

/-- A clause refers to its options. -/
structure ClauseObject where
  connective : Connective
  negated : Value
  options : Address
  condition : Condition

namespace ObjectKind

/-- What an object of a kind holds. A list of clauses holds their addresses. -/
abbrev Content : ObjectKind → Type
  | clause => ClauseObject
  | clauses => List Address
  | columns => List Value
  | aggregations => List Aggregation
  | orders => List Order
  | table => Entries
  | summary => Summary

def blank : (kind : ObjectKind) → kind.Content
  | clause => ⟨.conjunction, .bool false, 0, .absent .null⟩
  | clauses | columns | aggregations | orders | table => []
  | summary => .blank

end ObjectKind

/-- The attributes of a builder that refer to objects. -/
inductive Slot where
  | columns
  | bucket (k : Bucket)
  | aggregations
  | orders
  | options
  | summary
  deriving DecidableEq, Repr

namespace Slot

abbrev kind : Slot → ObjectKind
  | columns => .columns
  | bucket _ => .clauses
  | aggregations => .aggregations
  | orders => .orders
  | options => .table
  | summary => .summary

def all : List Slot :=
  [columns, bucket .query, bucket .filter, bucket .postFilter, aggregations, orders, options,
    summary]

end Slot

/-- A builder as an object. What is not in a slot cannot be changed in its place. -/
structure Body where
  index : Value
  limit : Option Number
  offset : Nat
  expandInnerHits : Bool
  routing : Value
  parentId : Value
  keyName : Value
  cache : Option Cached
  slots : Slot → Address

namespace Body

def blank (keyName : Value) : Body :=
  ⟨.null, none, 0, false, .null, .null, keyName, none, fun _ => 0⟩

instance : Inhabited Body := ⟨blank "id"⟩

end Body

structure Heap where
  bodies : List Body
  cells : (kind : ObjectKind) → List kind.Content

namespace Heap

def empty : Heap := ⟨[], fun _ => []⟩

def size (h : Heap) (kind : ObjectKind) : Nat := (h.cells kind).length

def get (h : Heap) (kind : ObjectKind) (a : Address) : kind.Content :=
  ((h.cells kind)[a]?).getD kind.blank

def write (h : Heap) (kind : ObjectKind) (a : Address) (content : kind.Content) : Heap :=
  { h with cells := Function.update h.cells kind ((h.cells kind).set a content) }

def alloc (h : Heap) (kind : ObjectKind) (content : kind.Content) : Address × Heap :=
  (h.size kind, { h with cells := Function.update h.cells kind (h.cells kind ++ [content]) })

def body (h : Heap) (ref : Ref) : Body := h.bodies[ref.index]?.getD default

def setBody (h : Heap) (ref : Ref) (o : Body) : Heap :=
  { h with bodies := h.bodies.set ref.index o }

def addBody (h : Heap) (o : Body) : Ref × Heap :=
  (⟨h.bodies.length⟩, { h with bodies := h.bodies ++ [o] })

/-- What an attribute of a builder refers to. -/
def own (h : Heap) (o : Body) (s : Slot) : s.kind.Content := h.get s.kind (o.slots s)

/-- Changes the object that an attribute refers to in its place. -/
def change (h : Heap) (o : Body) (s : Slot) (f : s.kind.Content → s.kind.Content) : Heap :=
  h.write s.kind (o.slots s) (f (h.own o s))

/-- Has an attribute refer to a new object. -/
def renew (h : Heap) (o : Body) (s : Slot) (content : s.kind.Content) : Body × Heap :=
  let new := h.alloc s.kind content
  ({ o with slots := Function.update o.slots s new.1 }, new.2)

/-- Has all attributes of a builder refer to new objects. -/
def renewAll (h : Heap) (o : Body) (contents : (s : Slot) → s.kind.Content) : Body × Heap :=
  Slot.all.foldl (fun r s => r.2.renew r.1 s (contents s)) (o, h)

def clauseAt (h : Heap) (a : Address) : Clause :=
  let c : ClauseObject := h.get .clause a
  ⟨c.connective, c.negated, h.get .table c.options, c.condition⟩

end Heap

/-- What an attribute is seen to have. -/
abbrev Slot.Seen : Slot → Type
  | columns => List Value
  | bucket _ => List Clause
  | aggregations => List Aggregation
  | orders => List Order
  | options => Entries
  | summary => Summary

namespace Heap

def seenAs (h : Heap) : (s : Slot) → s.kind.Content → s.Seen
  | .columns, columns => columns
  | .bucket _, addresses => List.map h.clauseAt addresses
  | .aggregations, aggregations => aggregations
  | .orders, orders => orders
  | .options, options => options
  | .summary, summary => summary

def seen (h : Heap) (o : Body) (s : Slot) : s.Seen := h.seenAs s (h.own o s)

end Heap

/-- A builder as a value, with what its attributes are seen to have. -/
def Body.builder (o : Body) (seen : (s : Slot) → s.Seen) : Builder where
  index := o.index
  columns := seen .columns
  wheres := seen (.bucket .query)
  filters := seen (.bucket .filter)
  postFilters := seen (.bucket .postFilter)
  aggregations := seen .aggregations
  orders := seen .orders
  limit := o.limit
  offset := o.offset
  expandInnerHits := o.expandInnerHits
  options := seen .options
  routing := o.routing
  parentId := o.parentId
  keyName := o.keyName
  cache := o.cache
  summary := seen .summary

namespace Heap

/-- A builder as a value. -/
def view (h : Heap) (o : Body) : Builder := o.builder (h.seen o)

/-- All builders as values. -/
def store (h : Heap) : Store := ⟨h.bodies.map h.view⟩

end Heap

end DocumentSearch
