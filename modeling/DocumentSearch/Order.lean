import DocumentSearch.Clause.Build

/-!
# Orders

Sorting as it is asked for and as it is sent. Text says whether it ascends; any other direction is a
number whose sign counts.
-/
namespace DocumentSearch.Order

/-- Text counts as ascending only when it reads `asc`; any other value is a sign already. -/
def directionOf : Value → Value
  | .str s => .int (if Text.lower s = "asc" then 1 else -1)
  | v => v

def kindOf (v : Value) : Except Error OrderKind :=
  match v.string?.bind OrderKind.ofName? with
  | some k => .ok k
  | none => .error (.invalidQuery (.unknownOrder v))

def located (options : Value) : Except Misuse Value := do
  let entries ← options.entries
  return .map (entries.insert "coordinates" (Value.under entries "coordinates").location)

/-- Coordinates are asked for only where distances are measured. -/
def make (column direction kind options : Value) : Except Error Order := do
  let kind ← kindOf kind
  if ← options.holds "coordinates" then
    return ⟨column, direction, kind, ← located options⟩
  match kind with
  | .geoDistance => throw (.invalidQuery (.noCoordinates column))
  | .basic => return ⟨column, direction, kind, options⟩

/-- Sorting as it is asked for: the kind stands among the options. -/
def request (column direction options : Value) : Except Error Order := do
  let options ← (options.orElse (.map [])).toEntries
  make column (directionOf direction) ((options.find? "type").getD (.str OrderKind.basic.name))
    (.map (options.erase "type"))

def signature : Signature Value (Except Error Order) := do
  let column ← Signature.required "column"
  let direction ← Signature.withDefault "direction" (.int 1)
  let kind ← Signature.withDefault "type" (.str OrderKind.basic.name)
  let options ← Signature.withDefault "options" (.map [])
  return make column direction kind options

def ofFields (given : Table String Value) : Except Error Order := do
  (← signature.read ⟨[], given⟩)

def descending (o : Order) : Except Error Bool :=
  match o.direction.number? with
  | some n => .ok (n.lt (.int 0))
  | none => .error (.misuse .illTyped)

/-- A unit is written by its text. -/
def unitText : Value → Value
  | .unit u => .str u.text
  | v => v

/-- The column is the key under which its settings stand. -/
def fragment (o : Order) : Except Error Entries := do
  let direction := Value.str (if ← o.descending then "desc" else "asc")
  let options ← o.options.entries
  match o.kind with
  | .geoDistance =>
    let settings : Entries := [("order", direction),
      ("unit", unitText ((options.find? "unit").getD "km")),
      ("distance_type", (options.find? "distance_type").getD "plane")]
    let target ← Entries.single o.column (Value.under options "coordinates")
    return [("_geo_distance", .map (target.update settings))]
  | .basic =>
    let settings := (options.restrict ["missing", "mode"]).insert "order" direction
    Entries.single o.column (.map settings)

end DocumentSearch.Order
