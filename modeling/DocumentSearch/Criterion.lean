import DocumentSearch.Store
import DocumentSearch.Value.Number

/-!
# Criteria

A criterion is a request for clauses on a builder. `Criterion.clauses` says which clauses it stands
for and into which buckets they go, or why it is refused.
-/
namespace DocumentSearch

/-- A part of a date that scripts can compare. -/
inductive DatePart where
  | year
  | month
  | day
  | weekday
  deriving DecidableEq, Repr

namespace DatePart

def name : DatePart → String
  | year => "year"
  | month => "month"
  | day => "day"
  | weekday => "weekday"

def field : DatePart → String
  | year => "year"
  | month => "monthOfYear"
  | day => "dayOfMonth"
  | weekday => "dayOfWeek"

def of (part : DatePart) (d : Date) : Nat :=
  match part with
  | year => d.year
  | month => d.month
  | day => d.day
  | weekday => d.weekday

end DatePart

inductive Criterion where
  | comparison (column : Value) (operator value : Option Value) (connective : Value)
  | membership (column values connective : Value) (negated : Bool)
  | range (column values connective negated : Value)
  | presence (column connective : Value) (negated : Bool)
  | date (column operator : Value) (value : Option Value) (connective : Value)
  | datePart (part : DatePart) (column operator : Value) (value : Option Value) (connective : Value)
  | geoDistance (column location distance unit connective negated : Value)
  | geoBounds (column bounds connective negated : Value)
  | search (text fields matchType fuzziness constantScore connective : Value)
  | group (query connective : Value)
  | nestedDocument (column query connective : Value)
  | negation (query connective : Value)
  | parent (documentType query options connective : Value)
  | child (documentType query options connective : Value)
  | parentId (relationType id connective : Value)
  | startsWith (column value connective negated : Value)
  | script (source params lang connective : Value)
  | functionScore (functionType arguments connective : Value)

namespace Criterion

open Clause (Joining)

def joined (connective negated : Value) : Joining := ⟨connective, negated, .map []⟩

def plainly (connective : Value) : Joining := joined connective (.bool false)

def scriptOperator? (s : String) : Option String :=
  if s = "=" then some "=="
  else if s = "!=" ∨ s = "<>" then some "!="
  else if s = "<" ∨ s = ">" ∨ s = "<=" ∨ s = ">=" then some s
  else none

/-- A value that is no key cannot be looked up among the operators. -/
def scriptOperator (part : DatePart) (column operator : Value) : Except Error String := do
  let operator ← operator.asKey
  match operator.string?.bind scriptOperator? with
  | some s => return s
  | none => throw (.invalidQuery (.partOperator operator part.name column))

/-- A date stands for its part. -/
def partOf (part : DatePart) : Value → Value
  | .date d => .ofNat (part.of d)
  | .moment m => .ofNat (part.of m.date)
  | v => v

/-- What does not fit is the query's fault, but a number without an end is not. -/
def partNumber (part : DatePart) (column value : Value) : Except Error Int :=
  match value.whole with
  | .ok i => .ok i
  | .error .overflow => .error (.misuse .overflow)
  | .error _ => .error (.invalidQuery (.partNotWhole part.name column value))

/-- One value is compared for equality; two are an operator and a value. -/
def operands (operator : Value) : Option Value → Value × Value
  | some value => (operator, value)
  | none => (.str "=", operator)

/-- The script that compares a part of a date field that has a value. -/
def partScript (part : DatePart) (column comparison : String) : String :=
  "doc." ++ column ++ ".size() > 0 && doc." ++ column ++ ".date." ++ part.field ++ " " ++
    comparison ++
    " params.value"

def single (c : Except Error Clause) : Except Error (List (Bucket × Clause)) := do
  return [(.query, ← c)]

def paramsOf (v : Value) : Except Error Value :=
  if v.truthy then do return .map (← v.toEntries) else .ok .null

/-- A range is given by a sequence; text is none. -/
def boundsOf (column values : Value) : Except Error Value :=
  match values with
  | .str _ => .error (.invalidQuery (.rangeBounds column values))
  | .bytes _ => .error (.invalidQuery (.rangeBounds column values))
  | v =>
    match v.items? with
    | some items => .ok (.list items)
    | none => .error (.invalidQuery (.rangeBounds column values))

/-- A group takes part in the query and in the filter, each only if the builder has clauses
there. -/
def groupClauses (store : Store) (query connective : Value) :
    Except Error (List (Bucket × Clause)) :=
  match query with
  | .builder ref => do
    let part (bucket : Bucket) : Except Error (List (Bucket × Clause)) :=
      if ((store.get ref).bucket bucket).isEmpty then .ok []
      else do return [(bucket, ← Clause.group (plainly connective) query (.str bucket.name))]
    return (← part .query) ++ (← part .filter)
  | _ => .error (.misuse .illTyped)

/-- A builder in the place of a column is a group; any other column is compared. -/
def columnClauses (store : Store) (connective column operator value : Value) :
    Except Error (List (Bucket × Clause)) :=
  match column with
  | .builder _ => groupClauses store column connective
  | column => single (Clause.basic (plainly connective) column operator value)

/-- One more key of a table is compared with the value under it, on the builder at a place of the
store as the keys before it have left it. -/
def entryClauses (store : Store) (self : Ref) (connective : Value) (placed : List (Bucket × Clause))
    (p : Value × Value) : Except Error (List (Bucket × Clause)) := do
  let grown := store.modify self (·.place placed)
  return placed ++ (← columnClauses grown connective p.1 (.str "=") p.2)

/-- A table in the place of a column compares each of its keys with the value under it. -/
def comparisonClauses (store : Store) (self : Ref) (column : Value) (operator value : Option Value)
    (connective : Value) : Except Error (List (Bucket × Clause)) :=
  match column, column.map? with
  | .builder _, _ => groupClauses store column connective
  | _, some entries => entries.foldlM (entryClauses store self connective) []
  | column, none =>
    match operator with
    | none => .error (.invalidQuery (.missingValue column))
    | some operator =>
      let (operator, value) := operands operator value
      single (Clause.basic (plainly connective) column operator value)

def datePartClauses (part : DatePart) (column operator : Value) (value : Option Value)
    (connective : Value) : Except Error (List (Bucket × Clause)) := do
  let (operator, value) := operands operator value
  let comparison ← scriptOperator part column operator
  let number ← partNumber part column (partOf part value)
  single (Clause.script (plainly connective) (.str (partScript part column.text comparison))
    (.map [("value", .int number)]) .null)

/-- The clauses that a criterion stands for on the builder at a place of a store, with their
buckets. -/
def clauses (store : Store) (self : Ref) : Criterion → Except Error (List (Bucket × Clause))
  | comparison column operator value connective =>
    comparisonClauses store self column operator value connective
  | membership column values connective negated =>
    single
      ((if negated then Clause.notAmong else Clause.among) (plainly connective) column values)
  | range column values connective negated => do
    let bounds ← boundsOf column values
    single (Clause.between (joined connective negated) column bounds)
  | presence column connective negated =>
    single ((if negated then Clause.present else Clause.absent) (plainly connective) column)
  | date column operator value connective =>
    let (operator, value) := operands operator value
    single (Clause.date (plainly connective) column operator value)
  | datePart part column operator value connective =>
    datePartClauses part column operator value connective
  | geoDistance column location distance unit connective negated => do
    let distance ← distance.distance unit
    single (Clause.geoDistance (joined connective negated) column location distance)
  | geoBounds column bounds connective negated =>
    single (Clause.geoBounds (joined connective negated) column bounds)
  | search text fields matchType fuzziness constantScore connective =>
    single (Clause.search (plainly connective) text fields matchType fuzziness constantScore)
  | group query connective => groupClauses store query connective
  | nestedDocument column query connective =>
    single (Clause.nestedDocument (plainly connective) column query)
  | negation query connective => single (Clause.negation (plainly connective) query)
  | parent documentType query options connective =>
    single (Clause.parent ⟨connective, .bool false, options.orElse (.map [])⟩ documentType query)
  | child documentType query options connective =>
    single (Clause.child ⟨connective, .bool false, options.orElse (.map [])⟩ documentType query)
  | parentId relationType id connective =>
    single (Clause.parentId (plainly connective) relationType id)
  | startsWith column value connective negated =>
    single (Clause.startsWith (joined connective negated) column value)
  | script source params lang connective => do
    let params ← paramsOf params
    single (Clause.script (plainly connective) source params lang)
  | functionScore functionType arguments connective => do
    let arguments ← (arguments.orElse (.map [])).toEntries
    single (Clause.functionScore (plainly connective) functionType (.map arguments))

/-! ## Signatures -/

section Signatures

open Signature

def conjunction : Value := .str Connective.conjunction.name
def disjunction : Value := .str Connective.disjunction.name

def connectiveParameter : Signature Value Value := withDefault "boolean" conjunction

def negatedParameter : Signature Value Value := withDefault "negated" (.bool false)

def truthOf (parameter : Signature Value Value) : Signature Value Bool := do
  return (← parameter).truthy

def comparisonWith (connective : Signature Value Value) : Signature Value Criterion := do
  return comparison (← required "column") (← optional "operator") (← optional "value")
    (← connective)

def membershipWith (connective : Signature Value Value) (negated : Signature Value Bool) :
    Signature Value Criterion := do
  return membership (← required "column") (← required "values") (← connective) (← negated)

def rangeWith (connective negated : Signature Value Value) : Signature Value Criterion := do
  return range (← required "column") (← required "values") (← connective) (← negated)

def presenceWith (connective : Signature Value Value) (negated : Signature Value Bool) :
    Signature Value Criterion := do
  return presence (← required "column") (← connective) (← negated)

def dateWith (connective : Signature Value Value) : Signature Value Criterion := do
  return date (← required "column") (← required "operator") (← optional "value") (← connective)

def datePartWith (part : DatePart) (connective : Signature Value Value) :
    Signature Value Criterion := do
  return datePart part (← required "column") (← required "operator") (← optional "value")
    (← connective)

def geoDistanceCall : Signature Value Criterion := do
  return geoDistance (← required "column") (← required "location") (← required "distance")
    (← withDefault "unit" .null) (← connectiveParameter) (← negatedParameter)

def geoBoundsCall : Signature Value Criterion := do
  return geoBounds (← required "column") (← required "bounds") (← connectiveParameter)
    (← negatedParameter)

def searchCall : Signature Value Criterion := do
  let text ← required "text"
  let fields ← withDefault "fields" .null
  let matchType ← withDefault "match_type" .null
  let fuzziness ← withDefault "fuzziness" .null
  let constantScore ← withDefault "constant_score" (.bool false)
  return search text fields matchType fuzziness constantScore (← connectiveParameter)

def orSearchCall : Signature Value Criterion := do
  let text ← required "text"
  let fields ← withDefault "fields" .null
  let matchType ← named "match_type"
  let fuzziness ← named "fuzziness"
  let constantScore ← named "constant_score"
  return search text fields (matchType.getD .null) (fuzziness.getD .null)
    (constantScore.getD (.bool false)) disjunction

def groupCall : Signature Value Criterion := do
  return group (← required "query") (← connectiveParameter)

def nestedDocumentCall : Signature Value Criterion := do
  return nestedDocument (← required "column") (← required "query") (← connectiveParameter)

def negationCall : Signature Value Criterion := do
  return negation (← required "query") (← connectiveParameter)

def parentCall : Signature Value Criterion := do
  return parent (← required "document_type") (← required "query") (← withDefault "options" .null)
    (← connectiveParameter)

def childCall : Signature Value Criterion := do
  return child (← required "document_type") (← required "query") (← withDefault "options" .null)
    (← connectiveParameter)

def parentIdCall : Signature Value Criterion := do
  return parentId (← required "relation_type") (← required "id") (← connectiveParameter)

def startsWithCall : Signature Value Criterion := do
  return startsWith (← required "column") (← required "value") (← connectiveParameter)
    (← negatedParameter)

def scriptCall : Signature Value Criterion := do
  return script (← required "source") (← withDefault "params" .null) (← withDefault "lang" .null)
    (← connectiveParameter)

def functionScoreCall : Signature Value Criterion := do
  return functionScore (← required "function_type") (← withDefault "arguments" .null)
    (← connectiveParameter)

def ofKind : ClauseKind → Signature Value Criterion
  | .basic => comparisonWith connectiveParameter
  | .among => membershipWith connectiveParameter (truthOf negatedParameter)
  | .notAmong => membershipWith connectiveParameter (pure true)
  | .between => rangeWith connectiveParameter negatedParameter
  | .absent => presenceWith connectiveParameter (truthOf negatedParameter)
  | .present => presenceWith connectiveParameter (pure true)
  | .date => dateWith connectiveParameter
  | .geoDistance => geoDistanceCall
  | .geoBounds => geoBoundsCall
  | .search => searchCall
  | .group => groupCall
  | .nestedDocument => nestedDocumentCall
  | .negation => negationCall
  | .parent => parentCall
  | .child => childCall
  | .parentId => parentIdCall
  | .startsWith => startsWithCall
  | .script => scriptCall
  | .functionScore => functionScoreCall

/-- The calls by which criteria are added under their own names. -/
def calls : Table String (Signature Value Criterion) :=
  [("where", ofKind .basic),
    ("or_where", comparisonWith (pure disjunction)),
    ("where_in", ofKind .among),
    ("or_where_in", membershipWith (pure disjunction) (pure false)),
    ("where_not_in", ofKind .notAmong),
    ("or_where_not_in", membershipWith (pure disjunction) (pure true)),
    ("where_between", ofKind .between),
    ("or_where_between", rangeWith (pure disjunction) (pure (.bool false))),
    ("where_not_between", rangeWith connectiveParameter (pure (.bool true))),
    ("or_where_not_between", rangeWith (pure disjunction) (pure (.bool true))),
    ("where_null", ofKind .absent),
    ("or_where_null", presenceWith (pure disjunction) (pure false)),
    ("where_not_null", ofKind .present),
    ("or_where_not_null", presenceWith (pure disjunction) (pure true)),
    ("where_date", ofKind .date),
    ("or_where_date", dateWith (pure disjunction)),
    ("where_year", datePartWith .year connectiveParameter),
    ("or_where_year", datePartWith .year (pure disjunction)),
    ("where_month", datePartWith .month connectiveParameter),
    ("or_where_month", datePartWith .month (pure disjunction)),
    ("where_day", datePartWith .day connectiveParameter),
    ("or_where_day", datePartWith .day (pure disjunction)),
    ("where_weekday", datePartWith .weekday connectiveParameter),
    ("or_where_weekday", datePartWith .weekday (pure disjunction)),
    ("where_geo_distance", ofKind .geoDistance),
    ("where_geo_bounds_in", ofKind .geoBounds),
    ("search", ofKind .search),
    ("or_search", orSearchCall),
    ("add_nested_where_query", ofKind .group),
    ("where_nested_doc", ofKind .nestedDocument),
    ("where_not", ofKind .negation),
    ("where_parent", ofKind .parent),
    ("where_child", ofKind .child),
    ("where_parent_id", ofKind .parentId),
    ("where_starts_with", ofKind .startsWith),
    ("where_script", ofKind .script),
    ("function_score", ofKind .functionScore)]

end Signatures

end Criterion

end DocumentSearch
