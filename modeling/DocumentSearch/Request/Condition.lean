import DocumentSearch.Fragment.Merge
import DocumentSearch.Fragment.Options
import DocumentSearch.Dialect
import DocumentSearch.Store

/-!
# Conditions as fragments

Each clause is written as a fragment, a bucket of clauses as one fragment, and the three buckets of
a builder side by side. Clauses that hold inner clauses ask for the fragments of the builder they
refer to, which is looked up in the store.
-/
namespace DocumentSearch

/-- The fragments of the three buckets; an empty one stands for no condition. -/
structure Conditions where
  query : Entries
  filter : Entries
  postFilter : Entries

namespace Conditions

def part (c : Conditions) : Bucket → Entries
  | .query => c.query
  | .filter => c.filter
  | .postFilter => c.postFilter

/-- The first bucket that is not empty. -/
def firstPart (c : Conditions) : Entries :=
  if !c.query.isEmpty then c.query else if !c.filter.isEmpty then c.filter else c.postFilter

end Conditions

namespace Fragment

def matchAll : Entries := [("match_all", .map [])]

def mustNot (fragment : Entries) : Entries := [("bool", .map [("must_not", .list [.map fragment])])]

def negatedIf (negated : Bool) (fragment : Entries) : Entries :=
  if negated then mustNot fragment else fragment

/-- The first fragment that is not empty, or one that every document matches. -/
def orMatchAll (first second : Entries) : Entries :=
  if !first.isEmpty then first else if !second.isEmpty then second else matchAll

/-- A query with a filter beside it that does not count for the score. -/
def queryWithFilter (query filter : Entries) : Entries :=
  if !query.isEmpty && !filter.isEmpty then
    [("bool", .map [("must", .list [.map query]), ("filter", .list [.map filter])])]
  else orMatchAll query filter

end Fragment

namespace Dialect

open Fragment

/-- A comparison with no value asks whether the field is there. -/
def comparison (d : Dialect) (column : Value) (operator : Operator) (value : Value)
    (options : Entries) (negated : Bool) : Except Error Entries := do
  let value ← d.convert value
  if value.isNull || operator = .exists then
    let fragment ← withOptions [("exists", .map [("field", column)])] options
    let negated :=
      if operator = .exists then negated || !value.truthy else negated || !operator.negates
    return negatedIf negated fragment
  else
    let fragment ← match operator.rangeKey? with
      | some key => keyed "range" column (.map [(key, value)])
      | none => keyed "term" column value
    return negatedIf (negated || operator.negates) (← withOptions fragment options)
where
  keyed (kind : String) (column body : Value) : Except Misuse Entries := do
    return [(.str kind, .map (← Entries.single column body))]

/-- A range with both ends; outside of it, both ends belong to the two rays. -/
def between (d : Dialect) (column low high : Value) (options : Entries) (negated : Bool) :
    Except Error Entries := do
  let column ← column.asKey
  let low ← low.convertDate d.datePattern
  let high ← high.convertDate d.datePattern
  if negated then
    return [("bool", .map [("should", .list
      [.map [("range", .map [(column, .map [("lte", low)])])],
        .map [("range", .map [(column, .map [("gte", high)])])]])])]
  else
    withOptions [("range", .map [(column, .map [("gte", low), ("lte", high)])])] options

def among (d : Dialect) (column : Value) (values : List Value) (options : Entries)
    (negated : Bool) : Except Error Entries := do
  let terms ← Entries.single column (← d.convert (.list values))
  return negatedIf negated (← withOptions [("terms", .map terms)] options)

/-- A field together with the weight that it has. -/
def weighted (entry : Value × Value) : Value := .str (entry.1.text ++ "^" ++ entry.2.text)

/-- The fields that are searched, each with its weight if there are weights. -/
def searchFields (fields : Value) : Except Misuse (List Value) :=
  if !fields.truthy then .ok []
  else
    match fields.seen with
    | .map weights => .ok (weights.map weighted)
    | .str field => .ok [.str field]
    | v => v.items

def fuzzinessEntry (fuzziness : Value) : Entries :=
  if fuzziness.truthy then [("fuzziness", fuzziness)] else []

/-- One field is matched by itself; several, or none in particular, by a query over many fields. -/
def textMatch (text fields matchType fuzziness : Value) : Except Misuse Entries := do
  match ← searchFields fields with
  | [field] =>
    return [("match", .map (← Entries.single field
      (.map (("query", text) :: fuzzinessEntry fuzziness))))]
  | fields =>
    let fieldsEntry : Entries := if fields.isEmpty then [] else [("fields", .list fields)]
    return [("multi_match", .map (("query", text) :: ("type", matchType.orElse "most_fields") ::
      (fieldsEntry ++ fuzzinessEntry fuzziness)))]

def search (text fields matchType fuzziness : Value) (constantScore : Bool) (options : Entries)
    (negated : Bool) : Except Error Entries := do
  let fragment ← textMatch text fields matchType fuzziness
  let fragment : Entries :=
    if constantScore then [("constant_score", .map [("filter", .map fragment)])] else fragment
  return negatedIf negated (← withOptions fragment options)

def convertValues (d : Dialect) (entries : Entries) : Except Misuse Entries :=
  entries.mapM (fun p => do return (p.1, ← d.convert p.2))

def paramsEntry (d : Dialect) (params : Value) : Except Misuse Entries :=
  if params.truthy then do return [("params", .map (← d.convertValues (← params.entries)))]
  else .ok []

def script (d : Dialect) (source params lang : Value) : Except Error Entries := do
  let langEntry : Entries := if lang.truthy then [("lang", lang)] else []
  return [("script", .map [("script",
    .map (("source", source) :: ((← d.paramsEntry params) ++ langEntry)))])]

/-- The bucket that a group is to be written for, if it names one. -/
def partOf (part : Value) : Except Misuse (Option Bucket) :=
  if part.isNull then .ok none
  else
    match part.string?.bind Bucket.ofName? with
    | some b => .ok (some b)
    | none => .error .badValue

def group (inner : Conditions) (part : Value) (options : Entries) : Except Error Entries := do
  let fragment := match ← partOf part with
    | some b => inner.part b
    | none => inner.firstPart
  if fragment.isEmpty then return matchAll else withOptions fragment options

/-- A filter goes beside the query of the nested documents; there is no place for a post filter. -/
def nestedDocument (column : Value) (inner : Conditions) (options : Entries) (negated : Bool) :
    Except Error Entries := do
  if !inner.postFilter.isEmpty then throw (.invalidQuery (.nestedPostFilter column))
  let fragment : Entries := [("nested", .map [("path", column),
    ("query", .map (queryWithFilter inner.query inner.filter))])]
  return negatedIf negated (← withOptions fragment options)

def negation (inner : Conditions) : Except Error Entries :=
  if !inner.query.isEmpty && !inner.filter.isEmpty then .error (.invalidQuery .negationContexts)
  else .ok (mustNot (orMatchAll inner.query inner.filter))

/-- A relative is found by a query or by a filter, not by both. -/
def relation (kind : ClauseKind) (outer typeKey : String) (documentType : Value)
    (inner : Conditions) (options : Entries) (negated : Bool) : Except Error Entries := do
  if !inner.query.isEmpty && !inner.filter.isEmpty then
    throw (.invalidQuery (.relationContexts kind))
  let fragment : Entries := [(.str outer, .map [(.str typeKey, documentType),
    ("query", .map (orMatchAll inner.query inner.filter))])]
  return negatedIf negated (← withOptions fragment options)

/-- The fragment of a condition, where `sub` writes the builders it refers to. -/
def conditionFragment (d : Dialect) (sub : Ref → Except Error Conditions) (options : Entries)
    (negated : Bool) : Condition → Except Error Entries
  | .basic column operator value => d.comparison column operator value options negated
  | .date column operator value =>
    if operator = .equal then d.between column value value options negated
    else d.comparison column operator value options negated
  | .among column values => d.among column values options negated
  | .notAmong column values => d.among column values options true
  | .between column low high => d.between column low high options negated
  | .absent column => d.comparison column .equal .null options negated
  | .present column => d.comparison column .unequal .null options negated
  | .geoDistance column location distance => do
    let distance ← Entries.single "distance" distance
    return negatedIf negated
      [("geo_distance", .map (distance.update (← Entries.single column location)))]
  | .geoBounds column bounds => do
    return negatedIf negated [("geo_bounding_box", .map (← Entries.single column bounds))]
  | .search text fields matchType fuzziness constantScore =>
    search text fields matchType fuzziness constantScore.truthy options negated
  | .group query part => do group (← sub query) part options
  | .nestedDocument column query => do nestedDocument column (← sub query) options negated
  | .negation query => do negation (← sub query)
  | .parent documentType query => do
    relation .parent "has_parent" "parent_type" documentType (← sub query) options negated
  | .child documentType query => do
    relation .child "has_child" "type" documentType (← sub query) options negated
  | .parentId relationType id => .ok [("parent_id", .map [("type", relationType), ("id", id)])]
  | .startsWith column value => do
    let body ← Entries.single column value
    return negatedIf negated (← withOptions [("prefix", .map body)] options)
  | .script source params lang => d.script source params lang
  | .functionScore functionType arguments => do
    let body ← Entries.single functionType (.map (← arguments.toEntries))
    return [("function_score", .map body)]

def clauseFragment (d : Dialect) (sub : Ref → Except Error Conditions) (c : Clause) :
    Except Error Entries :=
  if d.supports c.kind then d.conditionFragment sub c.options c.negated.truthy c.condition
  else .error (.unsupportedClause c.kind)

/-- A bucket while its clauses are joined: all of them are required, or any of them will do. -/
inductive Joined where
  | all (query : Entries)
  | any (alternatives : List Value)

namespace Joined

def required (fragment : Entries) : Entries := [("bool", .map [("must", .list [.map fragment])])]

/-- With the first `or`, what was required so far becomes one alternative, and every later clause
another. -/
def add : Joined → Bool → Entries → Joined
  | all query, false, fragment => all (merge query (required fragment))
  | all query, true, fragment =>
    any ((if query.isEmpty then [] else [.map query]) ++ [.map fragment])
  | any alternatives, false, fragment => any (alternatives ++ [.map (required fragment)])
  | any alternatives, true, fragment => any (alternatives ++ [.map fragment])

def toEntries : Joined → Entries
  | all query => query
  | any alternatives => [("bool", .map [("should", .list alternatives)])]

end Joined

def addClause (d : Dialect) (sub : Ref → Except Error Conditions) (joined : Joined) (c : Clause) :
    Except Error Joined := do
  return joined.add c.isOr (← d.clauseFragment sub c)

def bucketFragment (d : Dialect) (sub : Ref → Except Error Conditions) (clauses : List Clause) :
    Except Error Entries := do
  return (← clauses.foldlM (d.addClause sub) (.all [])).toEntries

def bucketFragments (d : Dialect) (sub : Ref → Except Error Conditions) (b : Builder) :
    Except Error Conditions := do
  return ⟨← d.bucketFragment sub b.wheres, ← d.bucketFragment sub b.filters,
    ← d.bucketFragment sub b.postFilters⟩

/-- The fragments of a builder whose references lead at most `depth` builders further. -/
def conditionsWithin (d : Dialect) (store : Store) : Nat → Builder → Except Error Conditions
  | 0, b => d.bucketFragments (fun _ => .error .circularQuery) b
  | depth + 1, b => d.bucketFragments (fun ref => d.conditionsWithin store depth (store.get ref)) b

/-- No path of references is longer than the store, unless it turns back on itself. -/
def conditions (d : Dialect) (store : Store) (b : Builder) : Except Error Conditions :=
  d.conditionsWithin store store.size b

end Dialect

end DocumentSearch
