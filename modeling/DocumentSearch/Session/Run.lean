import DocumentSearch.Session.Builder
import DocumentSearch.Session.Connection
import DocumentSearch.Session.Plain
import DocumentSearch.Session.Record
import DocumentSearch.Session.Refresh

/-!
# Running scripts

A session is set up once and then takes its steps one after the other. A step that fails leaves what
it has changed and sent, and the next step goes on from there.
-/
namespace DocumentSearch.Session

structure Setup where
  connection : Option (Table String Value)
  dialect : Option (Table String Value)
  index : Value
  keyName : Value
  script : Table String (List Answer)
  classes : List RecordClass

def dialectOf (given : Table String Value) : Except Error Dialect := do
  let signature : Signature Value (Value × Value) := do
    return (← Signature.withDefault "index_suffix" (.str ""),
      ← Signature.withDefault "date_format" (.str Value.defaultDatePattern))
  let (suffix, pattern) ← signature.read ⟨[], given⟩
  Dialect.of suffix pattern

def hitsIn : Answer → Nat
  | .value v =>
    match v.reply with
    | .ok reply =>
      match reply.hits with
      | .ok hits => hits.length
      | .error _ => 0
    | .error _ => 0
  | _ => 0

def hitsOf (script : Table String (List Answer)) : Nat :=
  (script.map Prod.snd).flatten.foldl (fun total answer => total + hitsIn answer) 0

def namesOf (root : Ref) (classes : List RecordClass) : Table String Argument :=
  let handle (h : Handle) : Argument := .value (.handle h)
  [("q", .value (.builder root)), ("grammar", handle .dialect),
    ("processor", handle (.summary root)), ("connection", handle .connection),
    ("indices", handle .admin)] ++
    classes.map (fun c => (c.name, handle (.recordClass c)))

def start (setup : Setup) : Except Error Session := do
  let config ← match setup.connection with
    | some given => some <$> Config.of given
    | none => pure none
  let dialect ← match setup.dialect, config with
    | some given, _ => dialectOf given
    | none, some config => pure config.dialect
    | none, none => pure .standard
  let (root, store) := Store.empty.add { Builder.blank setup.keyName with index := setup.index }
  return {
    dialect := dialect
    workspace := ⟨store, config.map (fun config => .opened config (.scripted setup.script))⟩
    root := root
    classes := setup.classes
    objects := namesOf root setup.classes
    cursors := []
    hitBound := hitsOf setup.script + 1 }

/-- Gives back its argument. -/
def keep (s : Session) (args : Arguments Argument) : Attempt :=
  s.reading (Signature.required "value") args fun a =>
    match a with
    | .value v => (.ok (.ofValue v), s)
    | .preset .. => (.ok ⟨.nothing, some a⟩, s)

def dispatch (s : Session) (object : Argument) (method : String) (args : Arguments Argument) :
    Attempt :=
  match object with
  | .preset key type settings calls => s.onPreset key type settings calls method args
  | .value (.builder ref) => s.onBuilder ref method args
  | .value (.handle .dialect) => s.onDialect method args
  | .value (.handle (.summary ref)) => s.onSummary ref method args
  | .value (.handle .connection) => s.onConnection method args
  | .value (.handle .admin) => s.onAdmin method args
  | .value (.handle (.recordClass c)) => s.onClass c method args
  | .value (.handle (.cursor place)) => s.onCursor place method args
  | .value (.record c attributes) => s.onRecord c attributes method args
  | .value v => s.onValue v method args

def readAttribute (s : Session) (object : Argument) (args : Arguments Argument) : Attempt :=
  s.reading (ofValues (Signature.required "name")) args fun name =>
    s.display do s.attributeOf (← object.toValue) name

def attempt (s : Session) (object : Argument) (step : Step) : Attempt :=
  match (arguments s.scope step).run s.workspace with
  | (.error e, w) => { s with workspace := w }.refuse e
  | (.ok args, w) =>
    let s := { s with workspace := w }
    if step.method = "keep" then s.keep args
    else if step.method = "attr" then s.readAttribute object args
    else if step.method = "index_records" then s.indexRecords args
    else s.dispatch object step.method args

/-- The target itself is not shown again. -/
def Result.besides (target : Option Ref) : Result → Result
  | builder ref => if some ref = target then nothing else builder ref
  | result => result

/-- What is known after a step: what it shows, the calls it made and the builder it was made on. -/
structure Report where
  result : Except Error Result
  calls : List Call
  target : Option Ref

def callsMade (s : Session) : List Call :=
  match s.workspace.line with
  | some c => c.client.calls
  | none => []

/-- Only a step that succeeds names what it gives. -/
def named (s : Session) (name : Option String) (object : Option Argument) : Session :=
  match name, object with
  | some name, some object => { s with objects := s.objects.insert name object }
  | _, _ => s

def step (s : Session) (step : Step) : Report × Session :=
  match s.objects.find? step.on with
  | none => (⟨.error (.misuse .illTyped), [], none⟩, s)
  | some object =>
    let before := s.callsMade.length
    let (result, s) := s.attempt object step
    let calls := s.callsMade.drop before
    match result with
    | .error e => (⟨.error e, calls, object.ref?⟩, s.refresh)
    | .ok gain =>
      (⟨.ok (gain.result.besides object.ref?), calls, object.ref?⟩,
        (s.named step.keepAs gain.object).refresh)

end DocumentSearch.Session
