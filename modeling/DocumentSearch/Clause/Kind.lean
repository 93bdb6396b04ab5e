/-!
# Kinds of clauses

The names under which clauses, buckets, operators and connectives are known in requests and
messages.
-/
namespace DocumentSearch

/-- How a clause is joined to the clauses before it. -/
inductive Connective where
  | conjunction
  | disjunction
  deriving DecidableEq, Repr

namespace Connective

def name : Connective → String
  | conjunction => "and"
  | disjunction => "or"

def ofName? (s : String) : Option Connective :=
  if s = "and" then some conjunction else if s = "or" then some disjunction else none

theorem ofName?_name (c : Connective) : ofName? c.name = some c := by cases c <;> rfl

end Connective

/-- Where the clauses of a builder go: into the query, beside it as a filter that does not count for
the score, or after the aggregations. -/
inductive Bucket where
  | query
  | filter
  | postFilter
  deriving DecidableEq, Repr

namespace Bucket

def name : Bucket → String
  | query => "query"
  | filter => "filter"
  | postFilter => "post_filter"

def all : List Bucket := [query, filter, postFilter]

def ofName? (s : String) : Option Bucket := all.find? (fun b => b.name = s)

theorem ofName?_name (b : Bucket) : ofName? b.name = some b := by cases b <;> rfl

end Bucket

inductive ClauseKind where
  | basic
  | among
  | notAmong
  | between
  | absent
  | present
  | date
  | geoDistance
  | geoBounds
  | search
  | group
  | nestedDocument
  | negation
  | parent
  | child
  | parentId
  | startsWith
  | script
  | functionScore
  deriving DecidableEq, Repr

namespace ClauseKind

def name : ClauseKind → String
  | basic => "Basic"
  | among => "In"
  | notAmong => "NotIn"
  | between => "Between"
  | absent => "Null"
  | present => "NotNull"
  | date => "Date"
  | geoDistance => "GeoDistance"
  | geoBounds => "GeoBoundsIn"
  | search => "Search"
  | group => "Nested"
  | nestedDocument => "NestedDoc"
  | negation => "Not"
  | parent => "Parent"
  | child => "Child"
  | parentId => "ParentId"
  | startsWith => "Prefix"
  | script => "Script"
  | functionScore => "FunctionScore"

/-- The name of the kind as a constant, as it stands in the message about a kind that cannot be
written. -/
def label : ClauseKind → String
  | basic => "ClauseType.BASIC"
  | among => "ClauseType.IN"
  | notAmong => "ClauseType.NOT_IN"
  | between => "ClauseType.BETWEEN"
  | absent => "ClauseType.NULL"
  | present => "ClauseType.NOT_NULL"
  | date => "ClauseType.DATE"
  | geoDistance => "ClauseType.GEO_DISTANCE"
  | geoBounds => "ClauseType.GEO_BOUNDS_IN"
  | search => "ClauseType.SEARCH"
  | group => "ClauseType.NESTED"
  | nestedDocument => "ClauseType.NESTED_DOC"
  | negation => "ClauseType.NOT"
  | parent => "ClauseType.PARENT"
  | child => "ClauseType.CHILD"
  | parentId => "ClauseType.PARENT_ID"
  | startsWith => "ClauseType.PREFIX"
  | script => "ClauseType.SCRIPT"
  | functionScore => "ClauseType.FUNCTION_SCORE"

def all : List ClauseKind :=
  [basic, among, notAmong, between, absent, present, date, geoDistance, geoBounds, search, group,
    nestedDocument, negation, parent, child, parentId, startsWith, script, functionScore]

def ofName? (s : String) : Option ClauseKind := all.find? (fun k => k.name = s)

theorem mem_all (k : ClauseKind) : k ∈ all := by cases k <;> decide

theorem ofName?_name (k : ClauseKind) : ofName? k.name = some k := by cases k <;> rfl

end ClauseKind

inductive Operator where
  | equal
  | less
  | greater
  | atMost
  | atLeast
  | unequal
  | unequalAngled
  | exists
  | like
  deriving DecidableEq, Repr

namespace Operator

def text : Operator → String
  | equal => "="
  | less => "<"
  | greater => ">"
  | atMost => "<="
  | atLeast => ">="
  | unequal => "!="
  | unequalAngled => "<>"
  | .exists => "exists"
  | like => "like"

def all : List Operator :=
  [equal, less, greater, atMost, atLeast, unequal, unequalAngled, .exists, like]

def ofText? (s : String) : Option Operator := all.find? (fun o => o.text = s)

def rangeKey? : Operator → Option String
  | greater => some "gt"
  | atLeast => some "gte"
  | less => some "lt"
  | atMost => some "lte"
  | _ => none

def negates : Operator → Bool
  | unequal => true
  | unequalAngled => true
  | _ => false

theorem ofText?_text (o : Operator) : ofText? o.text = some o := by cases o <;> rfl

end Operator

end DocumentSearch
