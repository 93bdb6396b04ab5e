import DocumentSearch.Bulk
import DocumentSearch.Value.Text

/-!
# Errors

Each error is a cause; `Error.message` puts it into words.
-/
namespace DocumentSearch

/-- What is wrong with a query, found before any request is sent. -/
inductive QueryFault where
  | negativeLimit (limit : Number)
  | refreshOption (option : Value)
  | conflictOption (option : Value)
  | missingValue (column : Value)
  | rangeBounds (column values : Value)
  | partOperator (operator : Value) (part : String) (column : Value)
  | partNotWhole (part : String) (column value : Value)
  | unknownKind (kind : Value)
  | filterTarget
  | subAggregations (key sub : Value)
  | duplicateAggregation (key : String)
  | notResettable (name : Value)
  | notDocuments
  | notADocument (given : Value)
  | emptyDatePattern
  | noIndex
  | unknownConnective (given : Value) (kind : ClauseKind)
  | optionsNotTable (kind : ClauseKind) (given : Value)
  | unknownOperator (given : Value) (kind : ClauseKind)
  | valuesNotSequence (kind : ClauseKind) (given : Value)
  | notTwoBounds (kind : ClauseKind) (given : Value)
  | emptyBounds (kind : ClauseKind)
  | emptyPath (kind : ClauseKind)
  | notSubQuery (kind : ClauseKind) (given : Value)
  | unknownOrder (given : Value)
  | noCoordinates (column : Value)
  | aggregationKeyNotText (given : Value)
  | aggregationKeyEmpty
  | aggregationKeyCharacter (key : String) (character name : String)
  | aggregationWithoutType (key : String)
  | aggregationArgument (type key argument : String)
  | childrenWithoutParentId
  | childWithoutId (parent : Value)
  | noKeyClause
  | notKeyClause (kind : ClauseKind)
  | nestedPostFilter (column : Value)
  | negationContexts
  | relationContexts (kind : ClauseKind)
  | extendedBounds (key : String)
  | filterArguments (key : String)
  | childDocumentWithoutId (type : Value)
  | mixedRecords

namespace QueryFault

def message : QueryFault → String
  | negativeLimit limit => "Limit must be non-negative, got " ++ limit.text
  | refreshOption option =>
    option.full ++ " is an invalid refresh option, valid options are: True, False, 'wait_for'"
  | conflictOption option =>
    option.full ++ " is an invalid conflict option, valid options are: abort, proceed"
  | missingValue column => "Basic clause on '" ++ column.text ++ "' requires a value"
  | rangeBounds column values =>
    "Between clause on '" ++ column.text ++ "' requires two bounds, got " ++ values.full
  | partOperator operator part column =>
    "Unsupported operator '" ++ operator.text ++ "' for " ++ part ++ " clause on '" ++
      column.text ++ "'"
  | partNotWhole part column value =>
    part ++ " clause on '" ++ column.text ++ "' requires an integer, got " ++ value.full
  | unknownKind kind => "Unknown clause type '" ++ kind.text ++ "'"
  | filterTarget => "add_filter target must be the filter or post_filter bucket"
  | subAggregations key sub =>
    "Sub aggregations of '" ++ key.text ++ "' must be a query builder, got " ++ sub.typeName
  | duplicateAggregation key => "Duplicate aggregation key '" ++ key ++ "'"
  | notResettable name => "Cannot reset builder attribute '" ++ name.text ++ "'"
  | notDocuments => "Insert expects a document or a sequence of documents"
  | notADocument given => "Insert expects mapping documents, got " ++ given.typeName
  | emptyDatePattern => "date_format cannot be empty"
  | noIndex => "No index specified for the query"
  | unknownConnective given kind =>
    "Invalid boolean '" ++ given.text ++ "' for " ++ kind.name ++ " clause, must be 'and' or 'or'"
  | optionsNotTable kind given =>
    kind.name ++ " clause options must be a mapping, got " ++ given.typeName
  | unknownOperator given kind =>
    "Unsupported operator '" ++ given.text ++ "' for " ++ kind.name ++ " clause"
  | valuesNotSequence kind given =>
    kind.name ++ " clause requires a sequence of values, got " ++ given.typeName
  | notTwoBounds kind given =>
    kind.name ++ " clause requires exactly two bounds, got " ++ given.full
  | emptyBounds kind => kind.name ++ " clause requires bounds"
  | emptyPath kind => kind.name ++ " clause path cannot be empty"
  | notSubQuery kind given =>
    kind.name ++ " clause requires a sub query builder, got " ++ given.typeName
  | unknownOrder given => "Unsupported order type '" ++ given.text ++ "'"
  | noCoordinates column => "geoDistance order on '" ++ column.text ++ "' requires coordinates"
  | aggregationKeyNotText given => "Aggregation key must be a string, got " ++ given.typeName
  | aggregationKeyEmpty => "Aggregation key cannot be empty"
  | aggregationKeyCharacter key character name =>
    "Aggregation key '" ++ key ++ "' cannot contain " ++ name ++ " '" ++ character ++ "'"
  | aggregationWithoutType key => "Aggregation '" ++ key ++ "' requires a type"
  | aggregationArgument type key argument =>
    type ++ " aggregation '" ++ key ++ "' requires argument '" ++ argument ++ "'"
  | childrenWithoutParentId => "Child documents require the parent document to have an id"
  | childWithoutId parent => "Child document of '" ++ parent.text ++ "' is missing an id"
  | noKeyClause => "Deleting or updating a single document requires an id where clause"
  | notKeyClause kind => "Cannot extract a document id from a " ++ kind.name ++ " clause"
  | nestedPostFilter column =>
    "nested query on '" ++ column.text ++ "' cannot contain post_filter clauses"
  | negationContexts => "not clause cannot use both filter and query contexts"
  | relationContexts kind =>
    kind.name ++ " clause cannot use both filter and query contexts within a relation context"
  | extendedBounds key =>
    "date_histogram aggregation '" ++ key ++ "' extended_bounds requires two values"
  | filterArguments key =>
    "filter aggregation '" ++ key ++ "' requires a query builder as its arguments"
  | childDocumentWithoutId type => "Child document of type '" ++ type.text ++ "' requires an id"
  | mixedRecords => "index_records expects records of a single type"

end QueryFault

inductive ConfigFault where
  | noHosts
  | negativeRetries (given : Number)
  | negativeTimeout (given : Number)
  | scrollSize (given : Number)
  | errorLimit (given : Number)
  | endpoint (given : String)
  | timeout (given : String)

namespace ConfigFault

def message : ConfigFault → String
  | noHosts => "hosts 不能为空，请提供至少一个 ES 节点地址"
  | negativeRetries given => "max_retries 必须 >= 0，当前值: " ++ given.text
  | negativeTimeout given => "request_timeout 必须 >= 0，当前值: " ++ given.text
  | scrollSize given => "scroll_size 必须 >= 1，当前值: " ++ given.text
  | errorLimit given => "bulk_error_limit 必须 >= 1，当前值: " ++ given.text
  | endpoint given => "ELASTICSEARCH_PORT 不是合法端口: " ++ given
  | timeout given => "ELASTICSEARCH_REQUEST_TIMEOUT 不是合法数字: " ++ given

end ConfigFault

/-- Why the administration of indices fails; `text` is what the client says. -/
inductive AdminFault where
  | emptyName
  | indexExists (index : String)
  | creation (index text : String)
  | deletion (index text : String)
  | existence (index text : String)
  | indexMissing (index : String)
  | mapping (index text : String)
  | indexListing (index text : String)
  | aliasCreation (index name text : String)
  | aliasExistence (name text : String)
  | aliasMissing (name : String)
  | aliasLookup (name text : String)
  | noActions
  | severalActions (action : Value)
  | actionIndexMissing (text : String)
  | actions (text : String)
  | aliasListing (name text : String)

namespace AdminFault

def message : AdminFault → String
  | emptyName => "索引名称不能为空"
  | indexExists index => "索引 '" ++ index ++ "' 已存在"
  | creation index text => "创建索引 '" ++ index ++ "' 失败: " ++ text
  | deletion index text => "删除索引 '" ++ index ++ "' 失败: " ++ text
  | existence index text => "检查索引 '" ++ index ++ "' 是否存在失败: " ++ text
  | indexMissing index => "索引 '" ++ index ++ "' 不存在"
  | mapping index text => "更新索引 '" ++ index ++ "' 映射失败: " ++ text
  | indexListing index text => "列出索引 '" ++ index ++ "' 失败: " ++ text
  | aliasCreation index name text => "为索引 '" ++ index ++ "' 创建别名 '" ++ name ++ "' 失败: " ++ text
  | aliasExistence name text => "检查别名 '" ++ name ++ "' 是否存在失败: " ++ text
  | aliasMissing name => "别名 '" ++ name ++ "' 不存在"
  | aliasLookup name text => "获取别名 '" ++ name ++ "' 失败: " ++ text
  | noActions => "别名操作列表不能为空"
  | severalActions action => "每个别名操作只能包含一个动作: " ++ action.text
  | actionIndexMissing text => "别名操作涉及的索引不存在: " ++ text
  | actions text => "执行别名操作失败: " ++ text
  | aliasListing name text => "列出别名 '" ++ name ++ "' 失败: " ++ text

end AdminFault

/-- A request that the client refused, with the parameters sent and what the reply says about it. -/
structure ExecutionFailure where
  query : Value
  bindings : Value
  status : Value
  errorType : Value
  reason : Value
  text : String

inductive Error where
  | misuse (cause : Misuse)
  | invalidQuery (fault : QueryFault)
  | unsupportedClause (kind : ClauseKind)
  | unsupportedAggregation (type key : String)
  | geo (cause : GeoError)
  | config (fault : ConfigFault)
  | execution (failure : ExecutionFailure)
  | bulkInsert (result : BulkResult) (limit : Value)
  | admin (fault : AdminFault)
  | unbound
  | noSearchConnection (className : String)
  | unsupportedResponse (given : Value)
  | missingClient
  /-- A failure that does not come from the client. -/
  | fault (text : String)
  /-- A builder that is reached from its own clauses cannot be written out. -/
  | circularQuery

namespace Error

/-- A misused value carries no words of its own. -/
def message : Error → Option String
  | misuse _ => none
  | invalidQuery f => some f.message
  | unsupportedClause kind => some ("No compiler registered for clause type '" ++ kind.label ++ "'")
  | unsupportedAggregation type key =>
    some ("No compiler registered for aggregation type '" ++ type ++ "' ('" ++ key ++ "')")
  | geo cause => some cause.message
  | config f => some f.message
  | execution f => some f.text
  | bulkInsert result limit => some (result.summary (limit.number?.bind Number.whole?))
  | admin f => some f.message
  | unbound => some "Query builder is not bound to a connection"
  | noSearchConnection className => some (className ++ " has no search connection")
  | unsupportedResponse given => some ("Unsupported response type: " ++ given.typeName)
  | missingClient => some "es_client 不能为 None"
  | fault text => some text
  | circularQuery => none

/-- Whether the query itself is to blame. -/
def blamesQuery : Error → Bool
  | invalidQuery _ => true
  | unsupportedClause _ => true
  | unsupportedAggregation _ _ => true
  | geo _ => true
  | _ => false

end Error

def Misuse.lift {α : Type} : Except Misuse α → Except Error α
  | .ok a => .ok a
  | .error m => .error (.misuse m)

instance : MonadLift (Except Misuse) (Except Error) := ⟨Misuse.lift⟩

end DocumentSearch
