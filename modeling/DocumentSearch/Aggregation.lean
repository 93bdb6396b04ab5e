import DocumentSearch.Call
import DocumentSearch.Error

/-!
# Aggregations

The type of an aggregation decides how it is written and what it needs among its arguments. Its key
is text that the search engine can use in paths.
-/
namespace DocumentSearch

/-- How aggregations of a type are written. -/
inductive AggregationKind where
  | terms
  | dateHistogram
  | dateRange
  | exists
  | filter
  | nested
  | reverseNested
  | children
  | metric
  deriving DecidableEq, Repr

namespace AggregationKind

def metrics : List String :=
  ["sum", "avg", "min", "max", "cardinality", "value_count", "stats", "extended_stats"]

def ofType? (type : String) : Option AggregationKind :=
  if type = "terms" then some terms
  else if type = "date_histogram" then some dateHistogram
  else if type = "date_range" then some dateRange
  else if type = "exists" then some .exists
  else if type = "filter" then some filter
  else if type = "nested" then some nested
  else if type = "reverse_nested" then some reverseNested
  else if type = "children" then some children
  else if metrics.contains type then some metric
  else none

end AggregationKind

namespace Aggregation

/-- Characters that the search engine keeps for paths into aggregations, and their names. -/
def reservedCharacters : List (Char × String) := [('[', "左方括号"), (']', "右方括号"), ('>', "大于号")]

def keyOf : Value → Except Error String
  | .str key =>
    if key = "" then .error (.invalidQuery .aggregationKeyEmpty)
    else
      match reservedCharacters.find? (fun c => key.toList.contains c.1) with
      | some (c, name) => .error (.invalidQuery (.aggregationKeyCharacter key c.toString name))
      | none => .ok key
  | v => .error (.invalidQuery (.aggregationKeyNotText v))

def typeOf (key : String) : Value → Except Error String
  | .str type =>
    if type = "" then .error (.invalidQuery (.aggregationWithoutType key)) else .ok type
  | _ => .error (.invalidQuery (.aggregationWithoutType key))

def make (key type args : Value) (sub : Option Ref) : Except Error Aggregation := do
  let key ← keyOf key
  return ⟨key, ← typeOf key type, args, sub⟩

/-- Inside an aggregation there is a builder, or nothing. -/
def insideOf : Value → Except Misuse (Option Ref)
  | .null => .ok none
  | .builder ref => .ok (some ref)
  | _ => .error .illTyped

/-- Reads an aggregation from fields by name. -/
def signature : Signature Value (Except Error Aggregation) := do
  let key ← Signature.required "key"
  let type ← Signature.required "type"
  let args ← Signature.withDefault "args" .null
  let inside ← Signature.withDefault "aggregations" .null
  return do
    let a ← make key type args none
    return { a with sub := ← insideOf inside }

def ofFields (given : Table String Value) : Except Error Aggregation := do
  (← signature.read ⟨[], given⟩)

/-- An argument by name, or the arguments themselves when they are not a table. -/
def argument (a : Aggregation) (name : String) : Except Error Value :=
  match a.args.map? with
  | some entries =>
    match Table.find? entries (.str name) with
    | some v => .ok v
    | none => .error (.invalidQuery (.aggregationArgument a.type a.key name))
  | none => .ok a.args

end Aggregation

end DocumentSearch
