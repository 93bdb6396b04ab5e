import DocumentSearch.Value.Access
import DocumentSearch.Value.Text

/-!
# Results of bulk requests

A bulk reply lists one outcome for each action. The result counts them and keeps the failed ones in
order, and its summary has one diagnosis for each failure that is shown.
-/
namespace DocumentSearch

structure BulkError where
  docId : Value
  indexName : Value
  operation : Value
  status : Value
  errorType : Value
  reason : Value
  causedBy : Entries

/-- The id, the reason and every value of the cause. -/
def BulkError.describe (e : BulkError) : String :=
  Value.joined ": " (e.docId.text :: e.reason.text :: (Table.values e.causedBy).map Value.text)

structure BulkResult where
  total : Nat
  success : Nat
  failed : Nat
  errors : List BulkError
  took : Value

namespace BulkResult

def empty (took : Value) : BulkResult := ⟨0, 0, 0, [], took⟩

/-- A failure given as bare text has no type of its own. -/
def failure (operation : Value) (detail : Entries) (error : Value) : Except Misuse BulkError := do
  let fields : Entries ← match error with
    | .str reason => .ok [("type", "unknown"), ("reason", reason)]
    | error => error.entries
  let causedBy ← ((Value.under fields "caused_by").orElse (.map [])).toEntries
  return {
    docId := Value.under detail "_id"
    indexName := Value.under detail "_index"
    operation := operation
    status := (Table.find? detail "status").getD (.int 0)
    errorType := (Table.find? fields "type").getD (.str "unknown")
    reason := (Table.find? fields "reason").getD (.str "")
    causedBy := causedBy }

/-- An empty item counts for nothing; of any other item only the first action counts. -/
def addItem (r : BulkResult) (item : Value) : Except Misuse BulkResult :=
  if !item.truthy then .ok r
  else do
    match ← item.entries with
    | [] => .ok r
    | (operation, outcome) :: _ =>
      let detail ← outcome.entries
      let error := Value.under detail "error"
      if !error.truthy then return { r with total := r.total + 1, success := r.success + 1 }
      else
        let e ← failure operation detail error
        return { r with total := r.total + 1, failed := r.failed + 1, errors := r.errors ++ [e] }

def ofResponse (response : Value) : Except Misuse BulkResult := do
  let took ← response.get "took" (.int 0)
  let items ← (← response.get "items" (.list [])).items
  items.foldlM addItem (empty took)

/-- A limit is a whole number; null is none. -/
def limitOf (v : Value) : Except Misuse (Option Int) :=
  match v with
  | .null => .ok none
  | v =>
    match v.number?.bind Number.whole? with
    | some limit => .ok (some limit)
    | none => .error .illTyped

def isSuccess (r : BulkResult) : Bool := r.failed = 0

/-- The errors up to a limit, if there is one; a negative limit leaves out that many at the end. -/
def shown (r : BulkResult) : Option Int → List BulkError
  | none => r.errors
  | some limit =>
    if 0 ≤ limit then r.errors.take limit.toNat else r.errors.take (r.errors.length - limit.natAbs)

def summary (r : BulkResult) (limit : Option Int) : String :=
  Value.joined "\n"
    (("Bulk Insert Errors (Showing " ++ toString (r.shown limit).length ++ " of " ++
      toString r.errors.length ++ "):") :: (r.shown limit).map BulkError.describe)

end BulkResult

/-- Without a limit of its own a summary shows this many failures. -/
def defaultErrorLimit : Int := 10

end DocumentSearch
