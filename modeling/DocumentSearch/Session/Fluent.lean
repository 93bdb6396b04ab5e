import DocumentSearch.Session.Argument

/-!
# Calls on builders by name

The names and the signatures of the calls that change builders, and of everything else that can be
done with them.
-/
namespace DocumentSearch.Session

open Signature

def edit (e : Signature Value Edit) : Signature Argument FluentCall := do
  return .edit (← ofValues e)

def filterInto (bucket : Signature Value Value) (kind : Signature Value Value) :
    Signature Value Edit := do
  let bucket ← bucket
  let kind ← kind
  return .filter kind (← remaining) bucket

def filterBucket : Signature Value Value := do
  return (← named "bucket").getD (.str Bucket.filter.name)

def filterOf (kind : ClauseKind) : Signature Argument FluentCall :=
  edit (filterInto filterBucket (pure (.str kind.name)))

def postFilterOf (kind : ClauseKind) : Signature Argument FluentCall :=
  edit (filterInto (pure (.str Bucket.postFilter.name)) (pure (.str kind.name)))

def withOptions : Signature Value Edit := do
  let kind ← required "kind"
  match ← named "options" with
  | some options => return .withOptions kind (← remaining) options
  | none => throw .illTyped

def addClause : Signature Value Edit := do
  let clause ← clauseOf (← required "clause")
  return .clause clause (← withDefault "bucket" (.str Bucket.query.name))

/-- An aggregation kept apart brings its own type and arguments. -/
def aggregation : Signature Argument FluentCall := do
  let key ← required "key"
  let type ← withDefault "type" (.value .null)
  let args ← withDefault "args" (.value .null)
  let sub ← withDefault "aggregations" (.value .null)
  match key with
  | .preset key type args calls => return .preset key type args calls
  | key =>
    return .edit (.aggregation (← key.toValue) (← type.toValue) (← args.toValue) (← sub.toValue))

def orderBy : Signature Value Edit := do
  return .order (← required "column") (← withDefault "direction" (.int 1))
    (← withDefault "options" .null)

def orderByDescending : Signature Value Edit := do
  return .order (← required "column") (.int (-1)) (← withDefault "options" .null)

def entryUnlessNull (key v : Value) : Entries := if v.isNull then [] else [(key, v)]

def orderByDistance : Signature Value Edit := do
  let column ← required "column"
  let coordinates ← required "coordinates"
  let direction ← withDefault "direction" (.int 1)
  let unit ← withDefault "unit" .null
  let distanceType ← withDefault "distance_type" .null
  return .order column direction
    (.map (("type", .str OrderKind.geoDistance.name) :: ("coordinates", coordinates) ::
      (entryUnlessNull "unit" unit ++ entryUnlessNull "distance_type" distanceType)))

/-- The calls that change a builder, apart from criteria. -/
def edits : Table String (Signature Argument FluentCall) :=
  [("from_", edit do return .index (← required "index")),
    ("select", edit do return .select (← remainingPlaces)),
    ("limit", edit do return .limit (← required "value")),
    ("take", edit do return .limit (← required "value")),
    ("offset", edit do return .offset (← required "value")),
    ("skip", edit do return .offset (← required "value")),
    ("for_page", edit do return .page (← required "page") (← withDefault "per_page" (.int 15))),
    ("routing", edit do return .routing (← required "value")),
    ("parent_id", edit do return .parentId (← required "value")),
    ("with_inner_hits", edit (pure .expandInnerHits)),
    ("with_refresh", edit do return .refresh (← withDefault "option" (.bool false))),
    ("on_conflicts", edit do return .conflicts (← withDefault "option" (.str "abort"))),
    ("add_clause", edit addClause),
    ("where_with_options", edit withOptions),
    ("add_filter", edit (filterInto filterBucket (required "kind"))),
    ("filter_where", filterOf .basic),
    ("filter_where_in", filterOf .among),
    ("filter_where_not_in", filterOf .notAmong),
    ("filter_where_between", filterOf .between),
    ("filter_where_null", filterOf .absent),
    ("filter_where_not_null", filterOf .present),
    ("filter_where_date", filterOf .date),
    ("filter_where_geo_distance", filterOf .geoDistance),
    ("filter_where_geo_bounds_in", filterOf .geoBounds),
    ("filter_where_nested_doc", filterOf .nestedDocument),
    ("filter_where_parent", filterOf .parent),
    ("filter_where_child", filterOf .child),
    ("post_filter_where", postFilterOf .basic),
    ("post_filter_where_in", postFilterOf .among),
    ("aggregation", aggregation),
    ("order_by", edit orderBy),
    ("order_by_desc", edit orderByDescending),
    ("order_by_geo_distance", edit orderByDistance)]

/-- The call that changes a builder under a name, if there is one. -/
def fluent? (method : String) : Option (Signature Argument FluentCall) :=
  match Criterion.calls.find? method with
  | some s => some (edit do return .criterion (← s))
  | none => edits.find? method

def actions : Table String (Signature Value Action) :=
  [("clone", pure .clone),
    ("clone_without", do return .cloneWithout (← required "attributes")),
    ("new_query", pure .newQuery),
    ("to_compiled_query", pure .searchRequest),
    ("get", do return .read (← withDefault "columns" .null)),
    ("first", do return .readFirst (← withDefault "columns" .null)),
    ("cursor", pure .openCursor),
    ("paginate", do
      return .paginate (← withDefault "per_page" (.int 15)) (← withDefault "page" (.int 1))),
    ("get_count_for_pagination", pure .count),
    ("get_aggregation_results", pure .aggregationResults),
    ("get_search_duration", pure .duration),
    ("get_raw_response", pure .rawReply),
    ("insert", do return .insert (← required "values")),
    ("update", do return .update (← required "values")),
    ("update_by_query", do
      return .updateByQuery (← required "script") (← withDefault "params" .null)),
    ("delete", do return .delete (← withDefault "id" .null)),
    ("get_routing", pure .routing),
    ("get_parent_id", pure .parentId),
    ("get_option", do return .option (← required "name"))]

def action? (method : String) : Option (Signature Argument Action) :=
  match fluent? method with
  | some s => some do return .fluent (← s)
  | none => (actions.find? method).map ofValues

end DocumentSearch.Session
