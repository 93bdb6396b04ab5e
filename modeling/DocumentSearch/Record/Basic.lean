import DocumentSearch.Execution.Write

/-!
# Searchable records

A record is written into the index of its class as a document: records among its attributes become
documents in turn, and those under the attributes that its class names go along as children.
-/
namespace DocumentSearch

namespace RecordClass

/-- A connection that is given comes before the one of the class. -/
def connection (c : RecordClass) (given : Option Connection) (bound : Option Connection) :
    Except Error Connection :=
  match given with
  | some connection => .ok connection
  | none =>
    match c.bound, bound with
    | true, some connection => .ok connection
    | _, _ => .error (.noSearchConnection c.name)

def newQuery (c : RecordClass) : Builder := { Builder.blank "id" with index := c.index }

end RecordClass

/-- A child as it goes along with its parent. -/
def childDocument (type id : Value) (document : Entries) : Except Error Value :=
  if id.isNull then .error (.invalidQuery (.childDocumentWithoutId type))
  else .ok (.map [("type", type), ("id", id), ("document", .map document)])

namespace Record

def valueOf (attributes : List (String × Value)) (name : String) : Value :=
  (Table.find? attributes name).getD .null

/-- The document of a record from its converted attributes: its own id is written over, the id of an
earlier reading is left out, and the children are added if there are any. -/
def assemble (id : Value) (converted : Entries) (children : List Value) : Entries :=
  let document := (converted.insert "id" id).erase "_id"
  if children.isEmpty then document else document.insert "child_documents" (.list children)

/-- The children in the order in which the class names their attributes. -/
def inOrder (names : List String) (children : Table String (Except Error (List Value))) :
    Except Error (List Value) := do
  return (← names.mapM (fun name => (Table.find? children name).getD (.ok []))).flatten

mutual

/-- A record becomes its document, and so does every record in a list; other values stay. -/
def convert : Value → Except Error Value
  | .record cls attributes => do
    let converted ← convertFields cls attributes
    let children ← inOrder cls.childAttributes (childrenFields cls attributes)
    return .map (assemble (valueOf attributes "id") converted children)
  | .list items => do return .list (← convertEach items)
  | .view part ref contents =>
    if contents.list?.isSome then convert contents else .ok (.view part ref contents)
  | v => .ok v
termination_by structural v => v

def convertEach : List Value → Except Error (List Value)
  | [] => .ok []
  | v :: rest => do
    let v ← convert v
    return v :: (← convertEach rest)
termination_by structural vs => vs

def convertField (cls : RecordClass) : String × Value → Except Error Entries
  | (name, v) => if cls.exports name then do return [(.str name, ← convert v)] else .ok []
termination_by structural p => p

def convertFields (cls : RecordClass) : List (String × Value) → Except Error Entries
  | [] => .ok []
  | p :: rest => do
    let field ← convertField cls p
    return field ++ (← convertFields cls rest)
termination_by structural ps => ps

/-- A record as a child of another one: its document is made before its id is looked at. -/
def child : Value → Except Error Value
  | .record cls attributes => do
    let converted ← convertFields cls attributes
    let children ← inOrder cls.childAttributes (childrenFields cls attributes)
    childDocument (.str cls.type) (valueOf attributes "id")
      (assemble (valueOf attributes "id") converted children)
  | _ => .error (.misuse .illTyped)
termination_by structural v => v

def childEach : List Value → Except Error (List Value)
  | [] => .ok []
  | v :: rest => do
    let v ← child v
    return v :: (← childEach rest)
termination_by structural vs => vs

def childrenOf : Value → Except Error (List Value)
  | .list items => childEach items
  | .tuple items => childEach items
  | .view _ _ contents => childrenOf contents
  | v => if v.truthy then .error (.misuse .illTyped) else .ok []
termination_by structural v => v

def childrenField (cls : RecordClass) : String × Value → String × Except Error (List Value)
  | (name, v) => (name, if cls.childAttributes.contains name then childrenOf v else .ok [])
termination_by structural p => p

def childrenFields (cls : RecordClass) :
    List (String × Value) → List (String × Except Error (List Value))
  | [] => []
  | p :: rest => childrenField cls p :: childrenFields cls rest
termination_by structural ps => ps

end

/-- The document under which a record is found. -/
def document (cls : RecordClass) (attributes : List (String × Value)) : Except Error Entries := do
  let converted ← convertFields cls attributes
  let children ← inOrder cls.childAttributes (childrenFields cls attributes)
  return assemble (valueOf attributes "id") converted children

def add (d : Dialect) (cls : RecordClass) (attributes : List (String × Value))
    (given bound : Line) : Except Error Bool × Line :=
  match cls.connection given bound with
  | .error e => (.error e, bound)
  | .ok connection =>
    match document cls attributes with
    | .error e => (.error e, some connection)
    | .ok document => cls.newQuery.insert d (.map document) (some connection)

def remove (d : Dialect) (store : Store) (cls : RecordClass) (attributes : List (String × Value))
    (given bound : Line) : Except Error Bool × Line :=
  match cls.connection given bound with
  | .error e => (.error e, bound)
  | .ok connection => cls.newQuery.delete d store (valueOf attributes "id") (some connection)

/-- Whether two values are of one class. Classes of records are told apart by all that they are, not
by their names. -/
def sameClass : Value → Value → Bool
  | .record cls _, .record other _ => cls = other
  | .record _ _, _ => false
  | _, .record _ _ => false
  | v, other => v.typeName = other.typeName

def record? : Value → Option (RecordClass × List (String × Value))
  | .record cls attributes => some (cls, attributes)
  | _ => none

def documents (records : List (RecordClass × List (String × Value))) : Except Error (List Value) :=
  records.mapM (fun r => do return .map (← document r.1 r.2))

/-- Writes records of one class with one request. -/
def addAll (d : Dialect) (records : List Value) (given bound : Line) : Except Error Bool × Line :=
  match records with
  | [] => (.ok true, bound)
  | first :: _ =>
    if records.any (fun r => !sameClass r first) then
      (.error (.invalidQuery .mixedRecords), bound)
    else
      match first with
      | .record cls _ =>
        match cls.connection given bound with
        | .error e => (.error e, bound)
        | .ok connection =>
          match documents (records.filterMap record?) with
          | .error e => (.error e, some connection)
          | .ok documents => cls.newQuery.insert d (.list documents) (some connection)
      | _ => (.error (.misuse .illTyped), bound)

end Record

end DocumentSearch
