import DocumentSearch.Call
import DocumentSearch.Error
import DocumentSearch.Text.Bytes
import DocumentSearch.Text.Lowercase

/-!
# Building clauses

A clause is built from values that are checked first: how it joins, its options, and then what its
kind asks for.
-/
namespace DocumentSearch

/-- Coordinates in the form that requests use; other values stand for themselves. -/
def Value.ofPoint (p : GeoPoint) : Value :=
  .map [("lat", .ofNumber p.lat), ("lon", .ofNumber p.lon)]

def Value.location : Value → Value
  | .point p => .ofPoint p
  | .bounds b => .map [("top_left", .ofPoint b.topLeft), ("bottom_right", .ofPoint b.bottomRight)]
  | v => v

/-- A unit is given as such or by its text. -/
def Value.distanceUnit (v : Value) : Except Error DistanceUnit :=
  match v with
  | .unit u => .ok u
  | .str s =>
    match DistanceUnit.ofText? s with
    | some u => .ok u
    | none => .error (.geo (.unsupportedUnit v.full))
  | _ => .error (.geo (.unsupportedUnit v.full))

/-- A distance is positive and is written together with its unit; what is no number stands for
itself. -/
def Value.distance (distance unit : Value) : Except Error Value :=
  match distance with
  | .int i => measured (.int i)
  | .float x => measured (.real x)
  | v => .ok v
where
  measured (n : Number) : Except Error Value :=
    if n.le (.int 0) then .error (.geo (.distanceNotPositive n))
    else if unit.isNull then .ok (.ofNumber n)
    else do return .str (n.text ++ (← unit.distanceUnit).text)

namespace Clause

structure Joining where
  connective : Value
  negated : Value
  options : Value

def Joining.plain : Joining := ⟨.str "and", .bool false, .map []⟩

def connectiveOf (kind : ClauseKind) (v : Value) : Except Error Connective :=
  match v.string?.bind Connective.ofName? with
  | some c => .ok c
  | none => .error (.invalidQuery (.unknownConnective v kind))

/-- No options are the same as an empty table of them. -/
def optionsOf (kind : ClauseKind) (v : Value) : Except Error Entries :=
  match v.map? with
  | some entries => .ok entries
  | none => if v.isNull then .ok [] else .error (.invalidQuery (.optionsNotTable kind v))

/-- The joining is checked before the condition. -/
def make (kind : ClauseKind) (j : Joining) (condition : Except Error Condition) :
    Except Error Clause := do
  let connective ← connectiveOf kind j.connective
  let options ← optionsOf kind j.options
  return ⟨connective, j.negated, options, ← condition⟩

def operatorOf (kind : ClauseKind) (v : Value) : Except Error Operator :=
  match v.string?.bind (fun s => Operator.ofText? (Text.lower s)) with
  | some o => .ok o
  | none => .error (.invalidQuery (.unknownOperator v kind))

def basic (j : Joining) (column operator value : Value) : Except Error Clause :=
  make .basic j do
    let operator ← operatorOf .basic operator
    return .basic column operator value

def date (j : Joining) (column operator value : Value) : Except Error Clause :=
  make .date j do
    let operator ← operatorOf .date operator
    return .date column operator value

/-- The values of a sequence that is neither text nor a table. -/
def sequenceOf (kind : ClauseKind) (v : Value) : Except Error (List Value) :=
  let refused := Except.error (.invalidQuery (.valuesNotSequence kind v))
  match v.seen with
  | .str _ => refused
  | .bytes _ => refused
  | .map _ => refused
  | v =>
    match v.items? with
    | some items => .ok items
    | none => refused

def among (j : Joining) (column values : Value) : Except Error Clause :=
  make .among j do
    let values ← sequenceOf .among values
    return .among column values

def notAmong (j : Joining) (column values : Value) : Except Error Clause :=
  make .notAmong j do
    let values ← sequenceOf .notAmong values
    return .notAmong column values

/-- The two bounds of a sequence that is neither text nor a table. -/
def boundsOf (v : Value) : Except Error (Value × Value) :=
  let refused := Except.error (.invalidQuery (.notTwoBounds .between v))
  match v.seen with
  | .str _ => refused
  | .bytes _ => refused
  | .map _ => refused
  | v =>
    match v.items? with
    | some [low, high] => .ok (low, high)
    | some _ => refused
    | none => .error (.misuse .illTyped)

def between (j : Joining) (column values : Value) : Except Error Clause :=
  make .between j do
    let (low, high) ← boundsOf values
    return .between column low high

def absent (j : Joining) (column : Value) : Except Error Clause :=
  make .absent j do return .absent column

def present (j : Joining) (column : Value) : Except Error Clause :=
  make .present j do return .present column

def geoDistance (j : Joining) (column location distance : Value) : Except Error Clause :=
  make .geoDistance j do
    let distance ← distance.distance .null
    return .geoDistance column location.location distance

def geoBounds (j : Joining) (column bounds : Value) : Except Error Clause :=
  make .geoBounds j do
    if bounds.location.truthy then return .geoBounds column bounds.location
    else throw (.invalidQuery (.emptyBounds .geoBounds))

def search (j : Joining) (text fields matchType fuzziness constantScore : Value) :
    Except Error Clause :=
  make .search j (.ok (.search text fields matchType fuzziness constantScore))

def queryOf (kind : ClauseKind) : Value → Except Error Ref
  | .builder ref => .ok ref
  | v => .error (.invalidQuery (.notSubQuery kind v))

def group (j : Joining) (query part : Value) : Except Error Clause :=
  make .group j do return .group (← queryOf .group query) part

/-- Whether a path is empty or has nothing but blanks. -/
def isBlankPath (v : Value) : Except Misuse Bool :=
  match v with
  | .str s => .ok (Text.strip s = "")
  | .bytes bs => .ok (bs.all Text.isBlankByte)
  | v => if v.truthy then .error .illTyped else .ok true

def nestedDocument (j : Joining) (column query : Value) : Except Error Clause :=
  make .nestedDocument j do
    if ← isBlankPath column then throw (.invalidQuery (.emptyPath .nestedDocument))
    return .nestedDocument column (← queryOf .nestedDocument query)

def negation (j : Joining) (query : Value) : Except Error Clause :=
  make .negation j do return .negation (← queryOf .negation query)

def parent (j : Joining) (documentType query : Value) : Except Error Clause :=
  make .parent j do return .parent documentType (← queryOf .parent query)

def child (j : Joining) (documentType query : Value) : Except Error Clause :=
  make .child j do return .child documentType (← queryOf .child query)

def parentId (j : Joining) (relationType id : Value) : Except Error Clause :=
  make .parentId j (.ok (.parentId relationType id))

def startsWith (j : Joining) (column value : Value) : Except Error Clause :=
  make .startsWith j do return .startsWith column value

def script (j : Joining) (source params lang : Value) : Except Error Clause :=
  make .script j (.ok (.script source params lang))

def functionScore (j : Joining) (functionType arguments : Value) : Except Error Clause :=
  make .functionScore j do return .functionScore functionType arguments

def signature (kind : ClauseKind) : Signature Value (Except Error Clause) := do
  let connective ← Signature.withDefault "boolean" (.str "and")
  let negated ← Signature.withDefault "negated" (.bool false)
  let options ← Signature.withDefault "options" (.map [])
  let j : Joining := ⟨connective, negated, options⟩
  match kind with
  | .basic =>
    return basic j (← Signature.required "column") (← Signature.withDefault "operator" (.str "="))
      (← Signature.withDefault "value" .null)
  | .date =>
    return date j (← Signature.required "column") (← Signature.withDefault "operator" (.str "="))
      (← Signature.withDefault "value" .null)
  | .among =>
    return among j (← Signature.required "column") (← Signature.withDefault "values" (.list []))
  | .notAmong =>
    return notAmong j (← Signature.required "column") (← Signature.withDefault "values" (.list []))
  | .between =>
    return between j (← Signature.required "column") (← Signature.withDefault "values" (.list []))
  | .absent => return absent j (← Signature.required "column")
  | .present => return present j (← Signature.required "column")
  | .geoDistance =>
    return geoDistance j (← Signature.required "column") (← Signature.required "location")
      (← Signature.required "distance")
  | .geoBounds => return geoBounds j (← Signature.required "column") (← Signature.required "bounds")
  | .search =>
    let text ← Signature.required "text"
    let fields ← Signature.withDefault "fields" .null
    let matchType ← Signature.withDefault "match_type" .null
    let fuzziness ← Signature.withDefault "fuzziness" .null
    let constantScore ← Signature.withDefault "constant_score" (.bool false)
    return search j text fields matchType fuzziness constantScore
  | .group => return group j (← Signature.required "query") (← Signature.withDefault "part" .null)
  | .nestedDocument =>
    return nestedDocument j (← Signature.required "column") (← Signature.required "query")
  | .negation => return negation j (← Signature.required "query")
  | .parent => return parent j (← Signature.required "document_type") (← Signature.required "query")
  | .child => return child j (← Signature.required "document_type") (← Signature.required "query")
  | .parentId =>
    return parentId j (← Signature.required "relation_type") (← Signature.required "id")
  | .startsWith =>
    return startsWith j (← Signature.required "column") (← Signature.required "value")
  | .script =>
    return script j (← Signature.required "source") (← Signature.withDefault "params" .null)
      (← Signature.withDefault "lang" .null)
  | .functionScore =>
    return functionScore j (← Signature.required "function_type")
      (← Signature.withDefault "arguments" (.map []))

def ofFields (kind : ClauseKind) (given : Table String Value) : Except Error Clause := do
  (← (signature kind).read ⟨[], given⟩)

end Clause

end DocumentSearch
