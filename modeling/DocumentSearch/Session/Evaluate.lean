import DocumentSearch.Session.Script
import DocumentSearch.Session.Fluent

/-!
# Evaluation of arguments

An expression is evaluated from left to right. New builders are added to the workspace and filled by
the calls on them; no builder that was there before is changed.
-/
namespace DocumentSearch.Session

/-- What expressions can name, and how requests are written for the calls among them. -/
structure Scope where
  dialect : Dialect
  objects : Table String Argument
  classes : List RecordClass
  /-- The key of new builders. -/
  keyName : Value

/-- What an evaluation has done stays done if it fails. -/
abbrev Evaluation (α : Type) := ExceptT Error (StateM Workspace) α

def pointOf (lat lon : Value) : Except Error GeoPoint := do
  match GeoPoint.of (← lat.number) (← lon.number) with
  | .ok p => return p
  | .error e => throw (.geo e)

def boundsOf (topLeft bottomRight : Value) : Except Error GeoBounds :=
  match topLeft, bottomRight with
  | .point p, .point q =>
    match GeoBounds.of p q with
    | .ok b => .ok b
    | .error e => .error (.geo e)
  | _, _ => .error (.misuse .illTyped)

def unitOf (text : Value) : Except Error DistanceUnit :=
  match text.string?.bind DistanceUnit.ofText? with
  | some u => .ok u
  | none => .error (.misuse .badValue)

def fluentCall (method : String) (args : Arguments Argument) : Except Misuse FluentCall :=
  match fluent? method with
  | some s => s.read args
  | none => .error .illTyped

def actionCall (method : String) (args : Arguments Argument) : Except Misuse Action :=
  match action? method with
  | some s => s.read args
  | none => .error .illTyped

def performOn (scope : Scope) (ref : Ref) (action : Action) : Evaluation Unit := do
  let (result, w) := action.perform scope.dialect (← get) ref
  set w
  match result with
  | .ok _ => return ()
  | .error e => throw e

def newBuilder (scope : Scope) : Evaluation Ref := do
  let w ← get
  let (ref, store) := w.store.add (.blank scope.keyName)
  set { w with store := store }
  return ref

mutual

/-- An object or an aggregation kept apart may stand for an argument as it is. -/
def evaluate (scope : Scope) : Expr → Evaluation Argument
  | .value v => return .value v
  | .list items => do return .value (.list (← evaluateAll scope items))
  | .tuple items => do return .value (.tuple (← evaluateAll scope items))
  | .map entries => do return .value (.map (Table.ofPairs (← evaluatePairs scope entries)))
  | .point lat lon => do
    let lat ← (← evaluate scope lat).toValue
    let lon ← (← evaluate scope lon).toValue
    return .value (.point (← pointOf lat lon))
  | .bounds topLeft bottomRight => do
    let topLeft ← (← evaluate scope topLeft).toValue
    let bottomRight ← (← evaluate scope bottomRight).toValue
    return .value (.bounds (← boundsOf topLeft bottomRight))
  | .unit text => do
    let text ← (← evaluate scope text).toValue
    return .value (.unit (← unitOf text))
  | .query calls => do
    let ref ← newBuilder scope
    performCalls scope ref calls
    return .value (.builder ref)
  | .clause kind fields => do
    let fields ← evaluateFields scope fields
    return .value (.clause (← Clause.ofFields kind fields))
  | .order fields => do
    let fields ← evaluateFields scope fields
    return .value (.order (← Order.ofFields fields))
  | .aggregation fields => do
    let fields ← evaluateFields scope fields
    return .value (.aggregation (← Aggregation.ofFields fields))
  | .preset key type args calls => do
    let key ← (← evaluate scope key).toValue
    let type ← (← evaluate scope type).toValue
    let args ← (← evaluate scope args).toValue
    return .preset key type args (← fluentCalls scope calls)
  | .object name =>
    match scope.objects.find? name with
    | some object => return object
    | none => throw (.misuse .illTyped)
  | .record className attributes => do
    let attributes ← evaluateFields scope attributes
    match scope.classes.find? (fun c => c.name = className) with
    | some c => return .value (.record c attributes)
    | none => throw (.misuse .illTyped)
  | .response body => do
    let body ← (← evaluate scope body).toValue
    return .value (.response body)
  | .convertible target => do
    let target ← (← evaluate scope target).toValue
    return .value (.convertible target)
termination_by structural e => e

def evaluateAll (scope : Scope) : List Expr → Evaluation (List Value)
  | [] => return []
  | e :: rest => do
    let v ← (← evaluate scope e).toValue
    return v :: (← evaluateAll scope rest)
termination_by structural es => es

/-- An entry of a table; what stands in front of it has to be a key. -/
def evaluatePair (scope : Scope) : Expr × Expr → Evaluation (Value × Value)
  | (key, e) => do
    let key ← (← evaluate scope key).toValue
    let v ← (← evaluate scope e).toValue
    return (← key.asKey, v)
termination_by structural p => p

def evaluatePairs (scope : Scope) : List (Expr × Expr) → Evaluation Entries
  | [] => return []
  | p :: rest => do
    let p ← evaluatePair scope p
    return p :: (← evaluatePairs scope rest)
termination_by structural ps => ps

def evaluateField (scope : Scope) : String × Expr → Evaluation (String × Value)
  | (name, e) => do
    let v ← (← evaluate scope e).toValue
    return (name, v)
termination_by structural p => p

def evaluateFields (scope : Scope) : List (String × Expr) → Evaluation (Table String Value)
  | [] => return []
  | p :: rest => do
    let p ← evaluateField scope p
    return p :: (← evaluateFields scope rest)
termination_by structural ps => ps

def evaluatePlaces (scope : Scope) : List Expr → Evaluation (List Argument)
  | [] => return []
  | e :: rest => do
    let a ← evaluate scope e
    return a :: (← evaluatePlaces scope rest)
termination_by structural es => es

def evaluateName (scope : Scope) : String × Expr → Evaluation (String × Argument)
  | (name, e) => do
    let a ← evaluate scope e
    return (name, a)
termination_by structural p => p

def evaluateNames (scope : Scope) : List (String × Expr) → Evaluation (Table String Argument)
  | [] => return []
  | p :: rest => do
    let p ← evaluateName scope p
    return p :: (← evaluateNames scope rest)
termination_by structural ps => ps

def fluentOf (scope : Scope) : CallExpr → Evaluation FluentCall
  | .call method positional named => do
    let positional ← evaluatePlaces scope positional
    let named ← evaluateNames scope named
    fluentCall method ⟨positional, named⟩
termination_by structural c => c

def fluentCalls (scope : Scope) : List CallExpr → Evaluation (List FluentCall)
  | [] => return []
  | c :: rest => do
    let call ← fluentOf scope c
    return call :: (← fluentCalls scope rest)
termination_by structural cs => cs

def actionOf (scope : Scope) : CallExpr → Evaluation Action
  | .call method positional named => do
    let positional ← evaluatePlaces scope positional
    let named ← evaluateNames scope named
    actionCall method ⟨positional, named⟩
termination_by structural c => c

/-- Calls on one builder, each evaluated after the one before it was made. -/
def performCalls (scope : Scope) (ref : Ref) : List CallExpr → Evaluation Unit
  | [] => return ()
  | c :: rest => do
    let action ← actionOf scope c
    performOn scope ref action
    performCalls scope ref rest
termination_by structural cs => cs

end

def arguments (scope : Scope) (step : Step) : Evaluation (Arguments Argument) := do
  return ⟨← evaluatePlaces scope step.positional, ← evaluateNames scope step.named⟩

end DocumentSearch.Session
