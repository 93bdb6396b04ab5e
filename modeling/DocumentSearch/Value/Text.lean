import DocumentSearch.Calendar.Iso
import DocumentSearch.Clause.Basic
import DocumentSearch.Text.Quoted

/-!
# The text of a value

Inside a list, a tuple or a table values are written out in full, texts in quotes; a text on its own
and a date on its own stand as they are. A value with named fields shows them all.
-/
namespace DocumentSearch.Value

/-- The name of the kind that a value is of. -/
def typeName : Value → String
  | null => "NoneType"
  | bool _ => "bool"
  | int _ => "int"
  | float _ => "float"
  | str _ => "str"
  | bytes _ => "bytes"
  | list _ => "list"
  | tuple _ => "tuple"
  | map _ => "dict"
  | date _ => "date"
  | moment _ => "datetime"
  | unit _ => "GeoDistanceUnit"
  | point _ => "GeoPoint"
  | bounds _ => "GeoBounds"
  | builder _ => "QueryBuilder"
  | record cls _ => cls.name
  | response (list _) => "ListApiResponse"
  | response _ => "ObjectApiResponse"
  | convertible _ => "Response"
  | clause c => c.kind.name ++ "Clause"
  | order _ => "OrderEntry"
  | aggregation _ => "AggregationNode"
  | entity type _ => type
  | view _ _ contents => typeName contents
  | handle .dialect => "QueryGrammar"
  | handle (.summary _) => "QueryProcessor"
  | handle .connection => "Connection"
  | handle .admin => "IndexManager"
  | handle (.recordClass _) => "type"
  | handle (.cursor _) => "generator"

def joined (separator : String) : List String → String
  | [] => ""
  | [s] => s
  | s :: rest => s ++ separator ++ joined separator rest

def pointText (p : GeoPoint) : String :=
  "GeoPoint(lat=" ++ p.lat.text ++ ", lon=" ++ p.lon.text ++ ")"

def boundsText (b : GeoBounds) : String :=
  "GeoBounds(top_left=" ++ pointText b.topLeft ++ ", bottom_right=" ++ pointText b.bottomRight ++
    ")"

def dateFields (d : Date) : List String := [toString d.year, toString d.month, toString d.day]

/-- The offset as seconds before or after universal time. -/
def offsetText (offset : Int) : String :=
  if offset = 0 then "datetime.timezone.utc"
  else if offset < 0 then
    "datetime.timezone(datetime.timedelta(days=-1, seconds=" ++ toString (86400 + offset * 60) ++
      "))"
  else "datetime.timezone(datetime.timedelta(seconds=" ++ toString (offset * 60) ++ "))"

/-- Seconds and microseconds are left out at the end when they are zero. -/
def momentFields (m : Moment) : List String :=
  dateFields m.date ++ [toString m.hour, toString m.minute] ++
    (if m.microsecond ≠ 0 then [toString m.second, toString m.microsecond]
      else if m.second ≠ 0 then [toString m.second] else []) ++
    m.offset.elim [] (fun o => ["tzinfo=" ++ offsetText o])

def named (name text : String) : String := name ++ "=" ++ text

def withFields (type : String) (fields : List String) : String :=
  type ++ "(" ++ joined ", " fields ++ ")"

def inList (items : List String) : String := "[" ++ joined ", " items ++ "]"

def inBraces (entries : List String) : String := "\x7b" ++ joined ", " entries ++ "\x7d"

def builderText : String := "QueryBuilder"

def connectiveText (c : Connective) : String :=
  match c with
  | .conjunction => "<Boolean.AND: 'and'>"
  | .disjunction => "<Boolean.OR: 'or'>"

def orderKindText (k : OrderKind) : String :=
  match k with
  | .basic => "<OrderType.BASIC: 'basic'>"
  | .geoDistance => "<OrderType.GEO_DISTANCE: 'geoDistance'>"

mutual

/-- The full form of a value. -/
def full : Value → String
  | null => "None"
  | bool b => if b then "True" else "False"
  | int i => toString i
  | float x => x.text
  | str s => DocumentSearch.Text.quoted s
  | bytes bs => DocumentSearch.Text.quotedBytes bs
  | list items => inList (fullEach items)
  | tuple items =>
    match items with
    | [item] => "(" ++ full item ++ ",)"
    | items => "(" ++ joined ", " (fullEach items) ++ ")"
  | map entries => inBraces (fullPairs entries)
  | date d => "datetime.date(" ++ joined ", " (dateFields d) ++ ")"
  | moment m => "datetime.datetime(" ++ joined ", " (momentFields m) ++ ")"
  | unit u => "<GeoDistanceUnit." ++ u.name ++ ": '" ++ u.text ++ "'>"
  | point p => pointText p
  | bounds b => boundsText b
  | builder _ => builderText
  | record cls attributes => withFields cls.name (fullFields attributes)
  | response body => typeName (.response body) ++ "(" ++ full body ++ ")"
  | convertible target => full target
  | clause c => fullClause c
  | order o => fullOrder o
  | aggregation a => fullAggregation a
  | entity type fields => withFields type (fullFields fields)
  | view _ _ contents => full contents
  | handle h => typeName (.handle h)
termination_by structural v => v

def fullEach : List Value → List String
  | [] => []
  | v :: rest => full v :: fullEach rest
termination_by structural vs => vs

def fullPair : Value × Value → String
  | (k, v) => full k ++ ": " ++ full v
termination_by structural p => p

def fullPairs : List (Value × Value) → List String
  | [] => []
  | p :: rest => fullPair p :: fullPairs rest
termination_by structural ps => ps

def fullField : String × Value → String
  | (k, v) => named k (full v)
termination_by structural p => p

def fullFields : List (String × Value) → List String
  | [] => []
  | p :: rest => fullField p :: fullFields rest
termination_by structural ps => ps

def fullClause : Clause → String
  | ⟨connective, negated, options, condition⟩ =>
    withFields (condition.kind.name ++ "Clause")
      (named "boolean" (connectiveText connective) :: named "negated" (full negated) ::
        named "options" (inBraces (fullPairs options)) ::
        fullCondition condition)
termination_by structural c => c

def fullCondition : Condition → List String
  | .basic column operator value =>
    [named "column" (full column), named "operator" (DocumentSearch.Text.quoted operator.text),
      named "value" (full value)]
  | .date column operator value =>
    [named "column" (full column), named "operator" (DocumentSearch.Text.quoted operator.text),
      named "value" (full value)]
  | .among column values =>
    [named "column" (full column), named "values" (inList (fullEach values))]
  | .notAmong column values =>
    [named "column" (full column), named "values" (inList (fullEach values))]
  | .between column low high =>
    [named "column" (full column), named "values" (inList [full low, full high])]
  | .absent column => [named "column" (full column)]
  | .present column => [named "column" (full column)]
  | .geoDistance column location distance =>
    [named "column" (full column), named "location" (full location),
      named "distance" (full distance)]
  | .geoBounds column area => [named "column" (full column), named "bounds" (full area)]
  | .search text fields matchType fuzziness constantScore =>
    [named "text" (full text), named "fields" (full fields), named "match_type" (full matchType),
      named "fuzziness" (full fuzziness), named "constant_score" (full constantScore)]
  | .group _ part => [named "query" builderText, named "part" (full part)]
  | .nestedDocument column _ => [named "column" (full column), named "query" builderText]
  | .negation _ => [named "query" builderText]
  | .parent documentType _ =>
    [named "document_type" (full documentType), named "query" builderText]
  | .child documentType _ =>
    [named "document_type" (full documentType), named "query" builderText]
  | .parentId relationType id => [named "relation_type" (full relationType), named "id" (full id)]
  | .startsWith column value => [named "column" (full column), named "value" (full value)]
  | .script source params lang =>
    [named "source" (full source), named "params" (full params), named "lang" (full lang)]
  | .functionScore functionType arguments =>
    [named "function_type" (full functionType), named "arguments" (full arguments)]
termination_by structural c => c

def fullOrder : Order → String
  | ⟨column, direction, kind, options⟩ =>
    withFields "OrderEntry" [named "column" (full column), named "direction" (full direction),
      named "type" (orderKindText kind),
      named "options" (full options)]
termination_by structural o => o

def fullAggregation : Aggregation → String
  | ⟨key, type, args, sub⟩ =>
    withFields "AggregationNode" [named "key" (DocumentSearch.Text.quoted key),
      named "type" (DocumentSearch.Text.quoted type), named "args" (full args),
      named "aggregations" (sub.elim "None" (fun _ => builderText))]
termination_by structural a => a

end

/-- The plain form of a value, as it stands in a sentence. -/
def text : Value → String
  | str s => s
  | date d => d.iso
  | moment m => String.ofList (m.isoChars ' ')
  | unit u => "GeoDistanceUnit." ++ u.name
  | response body => full body
  | v => full v

end DocumentSearch.Value
