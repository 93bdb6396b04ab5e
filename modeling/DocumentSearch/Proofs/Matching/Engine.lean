import Mathlib.Algebra.Order.Ring.Int
import DocumentSearch.Request.Search

/-!
# Matching

The documents that a fragment matches. A boolean query combines the fragments inside it, a query on
nested documents or on relatives applies an operator of the engine to the query inside it, and any
other fragment is a leaf, on which the engine decides alone.
-/
namespace DocumentSearch

/-- The ways in which the query for one document looks at others. -/
inductive Joint where
  | nested
  | parent
  | child
  deriving DecidableEq, Repr

namespace Joint

/-- The kind of fragment, and the field that says which documents are looked at. -/
def names : Joint → String × String
  | nested => ("nested", "path")
  | parent => ("has_parent", "parent_type")
  | child => ("has_child", "type")

def ofName? (s : String) : Option Joint := [nested, parent, child].find? (fun j => j.names.1 = s)

end Joint

/-- A search engine decides freely on leaf fragments, and on how a document depends on those that
are nested in it or related to it. -/
structure Engine (Doc : Type) where
  leaf : Entries → Doc → Bool
  joined : Joint → Value → (Doc → Bool) → Doc → Bool

namespace Engine

variable {Doc : Type}

def listed (parts : Table Value (List (Doc → Bool))) (key : String) : List (Doc → Bool) :=
  (parts.find? key).getD []

/-- How many alternatives have to match: as many as the query asks for, or else one if nothing is
required beside them. -/
def least (parts : Table Value (List (Doc → Bool))) (asked : Option Value) : Int :=
  match asked with
  | some (.int n) => n
  | _ => if (listed parts "must").isEmpty && (listed parts "filter").isEmpty then 1 else 0

def boolean (parts : Table Value (List (Doc → Bool))) (asked : Option Value) (doc : Doc) : Bool :=
  (listed parts "must").all (· doc) && (listed parts "filter").all (· doc) &&
    (listed parts "must_not").all (fun clause => !clause doc) &&
    ((listed parts "should").isEmpty ||
      decide (least parts asked ≤ (listed parts "should").countP (· doc)))

def field (body : Value) (key : String) : Option Value := body.map?.bind (Table.find? · key)

mutual

/-- Whether a document is matched by a fragment; a value that is no table is no fragment. -/
def acceptsValue (e : Engine Doc) : Value → Doc → Bool
  | .map entries => accepts e entries
  | _ => fun _ => false
termination_by structural v => v

def accepts (e : Engine Doc) : List (Value × Value) → Doc → Bool
  | [] => e.leaf []
  | p :: rest => if rest.isEmpty then acceptsPair e p else e.leaf (p :: rest)
termination_by structural ps => ps

def acceptsPair (e : Engine Doc) : Value × Value → Doc → Bool
  | (kind, body) =>
    if kind == "bool" then boolean (clauses e body) (field body "minimum_should_match")
    else if kind == "match_all" then fun _ => true
    else
      match kind.string?.bind Joint.ofName? with
      | some j => e.joined j ((field body j.names.2).getD .null) (inner e body)
      | none => e.leaf [(kind, body)]
termination_by structural p => p

/-- The clauses of a boolean query by their keys: each key has one fragment or a list of them. -/
def clauses (e : Engine Doc) : Value → Table Value (List (Doc → Bool))
  | .map fields => clausesOf e fields
  | _ => []
termination_by structural v => v

def clausesOf (e : Engine Doc) : List (Value × Value) → Table Value (List (Doc → Bool))
  | [] => []
  | p :: rest => clausesUnder e p :: clausesOf e rest
termination_by structural ps => ps

def clausesUnder (e : Engine Doc) : Value × Value → Value × List (Doc → Bool)
  | (key, v) => (key, alternatives e v)
termination_by structural p => p

def alternatives (e : Engine Doc) : Value → List (Doc → Bool)
  | .list items => each e items
  | .map entries => [accepts e entries]
  | _ => []
termination_by structural v => v

def each (e : Engine Doc) : List Value → List (Doc → Bool)
  | [] => []
  | v :: rest => acceptsValue e v :: each e rest
termination_by structural vs => vs

def inner (e : Engine Doc) : Value → Doc → Bool
  | .map fields => ((innerOf e fields).find? "query").getD (fun _ => false)
  | _ => fun _ => false
termination_by structural v => v

def innerOf (e : Engine Doc) : List (Value × Value) → Table Value (Doc → Bool)
  | [] => []
  | p :: rest => innerUnder e p :: innerOf e rest
termination_by structural ps => ps

def innerUnder (e : Engine Doc) : Value × Value → Value × (Doc → Bool)
  | (key, v) => (key, acceptsValue e v)
termination_by structural p => p

end

open Fragment

variable (e : Engine Doc)

theorem clausesOf_eq (fields : Entries) :
    e.clausesOf fields = Table.mapValues e.alternatives fields := by
  induction fields with
  | nil => rfl
  | cons p fields ih =>
    obtain ⟨key, v⟩ := p
    simp only [clausesOf, clausesUnder, ih]
    rfl

theorem innerOf_eq (fields : Entries) :
    e.innerOf fields = Table.mapValues e.acceptsValue fields := by
  induction fields with
  | nil => rfl
  | cons p fields ih =>
    obtain ⟨key, v⟩ := p
    simp only [innerOf, innerUnder, ih]
    rfl

theorem each_eq (items : List Value) : e.each items = items.map e.acceptsValue := by
  induction items with
  | nil => rfl
  | cons v items ih => simp [each, ih]

@[simp] theorem acceptsValue_map (entries : Entries) :
    e.acceptsValue (.map entries) = e.accepts entries := rfl

@[simp] theorem alternatives_list (items : List Value) :
    e.alternatives (.list items) = items.map e.acceptsValue := e.each_eq items

@[simp] theorem alternatives_map (entries : Entries) :
    e.alternatives (.map entries) = [e.accepts entries] := rfl

theorem listed_clausesOf (fields : Entries) (key : String) :
    listed (e.clausesOf fields) key = ((fields.find? key).map e.alternatives).getD [] := by
  rw [listed, clausesOf_eq, Table.find?_mapValues]

theorem accepts_bool (fields : Entries) :
    e.accepts [("bool", .map fields)] =
      boolean (e.clausesOf fields) (fields.find? "minimum_should_match") := by
  simp [accepts, acceptsPair, clauses, field, Value.map?, Value.seen]

/-- Keys of a boolean query that bear on matching; what stands under any other does not. -/
def booleanKeys : List String := ["must", "filter", "must_not", "should", "minimum_should_match"]

theorem accepts_bool_congr {fields other : Entries}
    (h : ∀ key ∈ booleanKeys, Table.find? other key = fields.find? key) :
    e.accepts [("bool", .map other)] = e.accepts [("bool", .map fields)] := by
  simp only [booleanKeys, List.forall_mem_cons] at h
  obtain ⟨must, filter, mustNot, should, minimum, -⟩ := h
  funext doc
  simp only [accepts_bool, boolean, least, listed_clausesOf, must, filter, mustNot, should, minimum]

@[simp] theorem accepts_matchAll (doc : Doc) : e.accepts matchAll doc = true := by
  simp [matchAll, accepts, acceptsPair]

@[simp] theorem accepts_mustNot (fragment : Entries) (doc : Doc) :
    e.accepts (mustNot fragment) doc = !e.accepts fragment doc := by
  simp [mustNot, accepts_bool, boolean, listed_clausesOf, Table.find?_cons]

theorem accepts_negatedIf (negated : Bool) (fragment : Entries) (doc : Doc) :
    e.accepts (negatedIf negated fragment) doc = (e.accepts fragment doc != negated) := by
  cases negated <;> simp [negatedIf]

theorem accepts_must (items : List Value) (doc : Doc) :
    e.accepts [("bool", .map [("must", .list items)])] doc =
      items.all (e.acceptsValue · doc) := by
  simp [accepts_bool, boolean, listed_clausesOf, Table.find?_cons, Function.comp_def]

/-- Without anything required beside them, one of the alternatives has to match. -/
theorem accepts_should {items : List Value} (h : items ≠ []) (doc : Doc) :
    e.accepts [("bool", .map [("should", .list items)])] doc =
      items.any (e.acceptsValue · doc) := by
  rw [Bool.eq_iff_iff]
  simp [accepts_bool, boolean, least, listed_clausesOf, Table.find?_cons, h,
    Function.comp_def]

/-- A kind of fragment that the engine decides on alone. -/
def isLeaf (kind : String) : Bool :=
  kind ≠ "bool" && kind ≠ "match_all" && (Joint.ofName? kind).isNone

theorem accepts_leaf (kind : String) (h : isLeaf kind = true) (body : Value) :
    e.accepts [(.str kind, body)] = e.leaf [(.str kind, body)] := by
  simp only [isLeaf, Bool.and_eq_true, decide_eq_true_eq, Option.isNone_iff_eq_none] at h
  obtain ⟨⟨notBool, notAll⟩, noJoint⟩ := h
  simp [accepts, acceptsPair, notBool, notAll, Value.string?, noJoint]

theorem accepts_joint (j : Joint) (fields : Entries) :
    e.accepts [(.str j.names.1, .map fields)] =
      e.joined j ((fields.find? j.names.2).getD .null)
        (((fields.find? "query").map e.acceptsValue).getD fun _ => false) := by
  have named : Joint.ofName? j.names.1 = some j := by cases j <;> rfl
  have notBool : j.names.1 ≠ "bool" := by cases j <;> decide
  have notAll : j.names.1 ≠ "match_all" := by cases j <;> decide
  simp [accepts, acceptsPair, notBool, notAll, Value.string?, named, inner, innerOf_eq,
    Table.find?_mapValues, field, Value.map?, Value.seen]

end Engine

end DocumentSearch
