import DocumentSearch.Calendar.Basic
import DocumentSearch.Clause.Kind
import DocumentSearch.Geo
import DocumentSearch.Order.Kind
import DocumentSearch.Table

/-!
# Values

Field values, request fragments, replies and documents are values; clauses, orders and aggregations
are values too, and hold values. A builder is referred to by its place in a store, and a list that
belongs to a builder goes on showing what the builder has.
-/
namespace DocumentSearch

/-- The place of a builder in a store. -/
structure Ref where
  index : Nat
  deriving DecidableEq, Repr, Inhabited

/-- What a class of searchable records declares. -/
structure RecordClass where
  name : String
  searchIndex : Option String
  searchType : Option String
  childAttributes : List String
  bound : Bool
  /-- Whether every attribute is a declared field; otherwise names with an underscore in front are
  private. -/
  declared : Bool
  deriving DecidableEq, Repr

/-- The parts of a builder that change in their place. -/
inductive Part where
  | wheres
  | filters
  | postFilters
  | aggregations
  | orders
  | options
  deriving DecidableEq, Repr

/-- Objects that can be passed on but show nothing of themselves. -/
inductive Handle where
  | dialect
  /-- What the last reply to a builder said. -/
  | summary (ref : Ref)
  | connection
  | admin
  | recordClass (c : RecordClass)
  | cursor (place : Nat)
  deriving DecidableEq, Repr

mutual

inductive Value where
  | null
  | bool (b : Bool)
  | int (i : Int)
  | float (x : Binary64)
  | str (s : String)
  | bytes (bs : List UInt8)
  | list (items : List Value)
  | tuple (items : List Value)
  | map (entries : List (Value × Value))
  | date (d : Date)
  | moment (m : Moment)
  | unit (u : DistanceUnit)
  | point (p : GeoPoint)
  | bounds (b : GeoBounds)
  | builder (ref : Ref)
  | record (cls : RecordClass) (attributes : List (String × Value))
  /-- A client's reply object around its body. -/
  | response (body : Value)
  /-- An object that can be turned into another value. -/
  | convertible (target : Value)
  | clause (c : Clause)
  | order (o : Order)
  | aggregation (a : Aggregation)
  /-- A result with named fields. -/
  | entity (type : String) (fields : List (String × Value))
  /-- A list or table that belongs to a builder, with what it holds at present. -/
  | view (part : Part) (ref : Ref) (contents : Value)
  | handle (h : Handle)

inductive Condition where
  | basic (column : Value) (operator : Operator) (value : Value)
  | date (column : Value) (operator : Operator) (value : Value)
  | among (column : Value) (values : List Value)
  | notAmong (column : Value) (values : List Value)
  | between (column low high : Value)
  | absent (column : Value)
  | present (column : Value)
  | geoDistance (column location distance : Value)
  | geoBounds (column bounds : Value)
  | search (text fields matchType fuzziness constantScore : Value)
  /-- The clauses of a builder in parentheses; without a part, its first bucket that is not
  empty. -/
  | group (query : Ref) (part : Value)
  | nestedDocument (column : Value) (query : Ref)
  | negation (query : Ref)
  | parent (documentType : Value) (query : Ref)
  | child (documentType : Value) (query : Ref)
  | parentId (relationType id : Value)
  | startsWith (column value : Value)
  | script (source params lang : Value)
  | functionScore (functionType arguments : Value)

/-- A condition on documents together with the way it joins the clauses before it. -/
structure Clause where
  connective : Connective
  negated : Value
  options : List (Value × Value)
  condition : Condition

/-- A direction below zero is descending. -/
structure Order where
  column : Value
  direction : Value
  kind : OrderKind
  options : Value

/-- An aggregation has a key under which its result is reported, a type, the arguments of its type
and possibly a builder that holds the aggregations inside it. -/
structure Aggregation where
  key : String
  type : String
  args : Value
  sub : Option Ref

end

deriving instance Inhabited for Value

instance : Coe String Value := ⟨Value.str⟩

namespace Value

def ofNat (n : Nat) : Value := int n

def ofStrings (strings : List String) : Value := list (strings.map str)

def number? : Value → Option Number
  | bool b => some (.flag b)
  | int i => some (.int i)
  | float x => some (.real x)
  | _ => none

def ofNumber : Number → Value
  | .flag b => bool b
  | .int i => int i
  | .real x => float x

def ofOption : Option Number → Value
  | some n => ofNumber n
  | none => null

@[simp] theorem number?_ofNumber (n : Number) : (ofNumber n).number? = some n := by cases n <;> rfl

def string? : Value → Option String
  | str s => some s
  | _ => none

def isNull : Value → Bool
  | null => true
  | _ => false

/-- A value with what belongs to a builder replaced by what it holds. -/
def seen : Value → Value
  | view _ _ contents => contents
  | v => v

def list? (v : Value) : Option (List Value) :=
  match v.seen with
  | list items => some items
  | _ => none

def sequence? (v : Value) : Option (List Value) :=
  match v.seen with
  | list items => some items
  | tuple items => some items
  | _ => none

def map? (v : Value) : Option (List (Value × Value)) :=
  match v.seen with
  | map entries => some entries
  | _ => none

/-- Null, false, zero and whatever is empty count as false. -/
def truthy : Value → Bool
  | null => false
  | bool b => b
  | int i => i ≠ 0
  | float x => !x.isZero
  | str s => s ≠ ""
  | bytes bs => !bs.isEmpty
  | list items => !items.isEmpty
  | tuple items => !items.isEmpty
  | map entries => !entries.isEmpty
  | response body => truthy body
  | view _ _ contents => truthy contents
  | _ => true

def orElse (a b : Value) : Value := if a.truthy then a else b

end Value

end DocumentSearch
