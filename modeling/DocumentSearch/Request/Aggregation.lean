import DocumentSearch.Request.Condition

/-!
# Aggregations as fragments

Each aggregation is written under its key; the aggregations inside it stand beside its own fragment.
-/
namespace DocumentSearch

namespace Aggregation

def termsArguments : List Value :=
  ["collect_mode", "exclude", "execution_hint", "include", "min_doc_count", "missing", "order",
    "script", "show_term_doc_count_error", "size"]

def histogramArguments : List Value :=
  ["interval", "calendar_interval", "fixed_interval", "min_doc_count", "format", "time_zone"]

/-- The arguments of an aggregation, or none if they are not a table. -/
def arguments (a : Aggregation) : Entries := a.args.map?.getD []

def terms (a : Aggregation) : Except Error Entries := do
  let field : Entries := [("field", ← a.argument "field")]
  return [("terms", .map (field.update (a.arguments.restrict termsArguments)))]

/-- Bounds are a pair, or a table of both ends; any other value is no bounds. -/
def extendedBounds (a : Aggregation) (pattern given : Value) : Except Error Entries := do
  let pair := match given.map? with
    | some ends => some [Value.under ends "min", Value.under ends "max"]
    | none => given.sequence?
  match pair with
  | none => return []
  | some [low, high] =>
    return [("extended_bounds",
      .map [("min", ← low.convertDate pattern), ("max", ← high.convertDate pattern)])]
  | some _ => throw (.invalidQuery (.extendedBounds a.key))

def entryOf? (entries : Entries) (name : Value) : Option (Value × Value) :=
  match entries.find? name with
  | some .null => none
  | v => v.map (name, ·)

def dateHistogram (a : Aggregation) (pattern : Value) : Except Error Entries := do
  let field : Entries := [("field", ← a.argument "field")]
  let settings := histogramArguments.filterMap (entryOf? a.arguments)
  let bounds ← a.extendedBounds pattern (Value.under a.arguments "extended_bounds")
  return [("date_histogram", .map (field ++ settings ++ bounds))]

/-- The fragment of an aggregation without those inside it, where `sub` writes a builder's
buckets. -/
def fragment (a : Aggregation) (pattern : Value) (sub : Ref → Except Error Conditions) :
    Except Error Entries := do
  match AggregationKind.ofType? a.type with
  | none => throw (.unsupportedAggregation a.type a.key)
  | some .terms => a.terms
  | some .dateHistogram => a.dateHistogram pattern
  | some .dateRange => return [("date_range", a.args)]
  | some .exists => return [("exists", .map [("field", ← a.argument "field")])]
  | some .filter =>
    match a.args with
    | .builder ref =>
      let inner ← sub ref
      return [("filter", .map (Fragment.queryWithFilter inner.query inner.filter))]
    | _ => throw (.invalidQuery (.filterArguments a.key))
  | some .nested => return [("nested", .map [("path", ← a.argument "path")])]
  | some .reverseNested => return [("reverse_nested", .map [])]
  | some .children => return [("children", .map [("type", ← a.argument "type")])]
  | some .metric => return [(a.type, .map [("field", ← a.argument "field")])]

/-- Whether the builder inside an aggregation has aggregations of its own. -/
def hasSub (a : Aggregation) (store : Store) : Bool :=
  match a.sub with
  | some ref => !(store.get ref).aggregations.isEmpty
  | none => false

end Aggregation

namespace Dialect

/-- An aggregation with those inside it, where `inside` writes the aggregations of a builder. -/
def aggregationWith (d : Dialect) (store : Store) (inside : Builder → Except Error Entries)
    (a : Aggregation) : Except Error Entries := do
  let fragment ← a.fragment d.datePattern (fun ref => d.conditions store (store.get ref))
  match a.sub with
  | some ref =>
    if a.hasSub store then
      return Table.insert fragment "aggregations" (.map (← inside (store.get ref)))
    else return fragment
  | none => return fragment

def aggregationsWith (d : Dialect) (store : Store) (inside : Builder → Except Error Entries)
    (b : Builder) : Except Error Entries :=
  b.aggregations.foldlM
    (fun written a => do
      return Table.insert written a.key (.map (← d.aggregationWith store inside a))) []

def aggregationsWithin (d : Dialect) (store : Store) : Nat → Builder → Except Error Entries
  | 0, b => d.aggregationsWith store (fun _ => .error .circularQuery) b
  | depth + 1, b => d.aggregationsWith store (d.aggregationsWithin store depth) b

def aggregations (d : Dialect) (store : Store) (b : Builder) : Except Error Entries :=
  d.aggregationsWithin store store.size b

def aggregation (d : Dialect) (store : Store) (a : Aggregation) : Except Error Entries := do
  return [(a.key, .map (← d.aggregationWith store (d.aggregations store) a))]

end Dialect

end DocumentSearch
