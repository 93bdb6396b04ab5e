import DocumentSearch.Order
import DocumentSearch.Aggregation

/-!
# Builders

A builder collects clauses in three buckets, aggregations, orders, the columns to return and a page.
It also keeps the last result and what the reply to it said.
-/
namespace DocumentSearch

/-- What the last reply said beyond its documents. -/
structure Summary where
  raw : Option Entries
  aggregations : Value

def Summary.blank : Summary := ⟨none, .map []⟩

/-- The documents of the last result with the page that they were fetched for. -/
structure Cached where
  documents : List Value
  offset : Nat
  limit : Option Number

structure Builder where
  index : Value
  columns : List Value
  wheres : List Clause
  filters : List Clause
  postFilters : List Clause
  aggregations : List Aggregation
  orders : List Order
  limit : Option Number
  offset : Nat
  expandInnerHits : Bool
  /-- How requests over whatever a query matches deal with conflicts and with refreshing. -/
  options : Entries
  routing : Value
  parentId : Value
  keyName : Value
  cache : Option Cached
  summary : Summary

namespace Builder

def blank (keyName : Value) : Builder :=
  ⟨.null, [], [], [], [], [], [], none, 0, false, [], .null, .null, keyName, none, .blank⟩

instance : Inhabited Builder := ⟨blank "id"⟩

def bucket (b : Builder) : Bucket → List Clause
  | .query => b.wheres
  | .filter => b.filters
  | .postFilter => b.postFilters

def append (b : Builder) : Bucket → List Clause → Builder
  | .query, cs => { b with wheres := b.wheres ++ cs }
  | .filter, cs => { b with filters := b.filters ++ cs }
  | .postFilter, cs => { b with postFilters := b.postFilters ++ cs }

/-- Appends clauses each to its own bucket, in order. -/
def place (b : Builder) (clauses : List (Bucket × Clause)) : Builder :=
  clauses.foldl (fun b c => b.append c.1 [c.2]) b

/-- A copy shares the clauses and forgets the result. -/
def clone (b : Builder) : Builder := { b with cache := none, summary := .blank }

def without? (b : Builder) : String → Option Builder
  | "columns" => some { b with columns := [] }
  | "wheres" => some { b with wheres := [] }
  | "filters" => some { b with filters := [] }
  | "post_filters" => some { b with postFilters := [] }
  | "aggregations" => some { b with aggregations := [] }
  | "orders" => some { b with orders := [] }
  | "limit_value" => some { b with limit := none }
  | "offset_value" => some { b with offset := 0 }
  | _ => none

def resetOne (b : Builder) (name : Value) : Except Error Builder := do
  let name ← name.asKey
  match name.string?.bind b.without? with
  | some b => return b
  | none => throw (.invalidQuery (.notResettable name))

def cloneWithout (b : Builder) (names : List Value) : Except Error Builder :=
  names.foldlM resetOne b.clone

theorem bucket_append_self (b : Builder) (k : Bucket) (cs : List Clause) :
    (b.append k cs).bucket k = b.bucket k ++ cs := by cases k <;> rfl

theorem bucket_append_of_ne (b : Builder) {k other : Bucket} (cs : List Clause) (h : other ≠ k) :
    (b.append k cs).bucket other = b.bucket other := by
  cases k <;> cases other <;> first | rfl | exact absurd rfl h

theorem bucket_place (b : Builder) (clauses : List (Bucket × Clause)) (k : Bucket) :
    (b.place clauses).bucket k =
      b.bucket k ++ (clauses.filter (fun c => c.1 = k)).map Prod.snd := by
  induction clauses generalizing b with
  | nil => simp [place]
  | cons c clauses ih =>
    have rest := ih (b.append c.1 [c.2])
    by_cases same : c.1 = k
    · subst same
      simpa [place, bucket_append_self] using rest
    · simpa [place, bucket_append_of_ne b [c.2] (Ne.symm same), same] using rest

end Builder

end DocumentSearch
