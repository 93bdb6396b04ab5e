import DocumentSearch.Value.Access

/-!
# Options of clauses

A boost or a request for inner hits is written into the first entry of a fragment: beside the value
of a single term, among the parameters of a field, or else directly into the body.
-/
namespace DocumentSearch.Fragment

/-- Kinds whose body gives one value for one column. -/
def valueKinds : List Value := ["term", "prefix"]

/-- Kinds whose body gives the parameters of one column. -/
def fieldKinds : List Value := ["range", "match"]

/-- The first entry of a table; an empty one has none. -/
def firstEntry : Entries → Except Misuse (Value × Value)
  | [] => .error .illTyped
  | p :: _ => .ok p

/-- The body of a fragment's first entry, changed in its place. -/
def updateFirst (f : Value → Value → Except Misuse Value) (fragment : Entries) :
    Except Misuse Entries := do
  let (kind, body) ← firstEntry fragment
  return fragment.insert kind (← f kind body)

def boosted (boost : Value) (kind body : Value) : Except Misuse Value :=
  if valueKinds.contains kind then do
    let (column, value) ← firstEntry (← body.entries)
    return .map [(column, .map [("value", value), ("boost", boost)])]
  else if fieldKinds.contains kind then do
    let (column, parameters) ← firstEntry (← body.entries)
    return .map [(column, .map ((← parameters.entries).insert "boost" boost))]
  else do
    return .map ((← body.entries).insert "boost" boost)

/-- True, or anything that counts as false, asks for inner hits without further settings. -/
def innerHitsOf (v : Value) : Except Misuse Value :=
  match v with
  | .bool true => .ok (.map [])
  | v => if v.truthy then do return .map (← v.toEntries) else .ok (.map [])

def withInnerHits (innerHits : Value) (_kind body : Value) : Except Misuse Value := do
  return .map ((← body.entries).insert "inner_hits" innerHits)

/-- The boost comes first, then the inner hits; other options are left alone. -/
def withOptions (fragment options : Entries) : Except Misuse Entries := do
  let fragment ← match options.find? "boost" with
    | some boost => updateFirst (boosted boost) fragment
    | none => .ok fragment
  match options.find? "inner_hits" with
  | some v => do
    let innerHits ← innerHitsOf v
    updateFirst (withInnerHits innerHits) fragment
  | none => .ok fragment

@[simp] theorem withOptions_nil (fragment : Entries) : withOptions fragment [] = .ok fragment := rfl

/-- Options that are no table have no effect unless one of the options is found among them. -/
def applyOptions (fragment options : Value) : Except Misuse Value := do
  if !options.truthy then return fragment
  if !(← options.holds "boost") && !(← options.holds "inner_hits") then return fragment
  return .map (← withOptions (← fragment.entries) (← options.entries))

end DocumentSearch.Fragment
