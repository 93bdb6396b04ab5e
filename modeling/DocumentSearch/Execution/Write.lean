import DocumentSearch.Execution.Read
import DocumentSearch.Request.Write

/-!
# Writing through a builder

Documents are inserted, updated and deleted through the connection of a builder. A builder without
one is refused before anything is written out.
-/
namespace DocumentSearch.Builder

/-- One document, or a sequence of documents and nothing else. -/
def documentsOf (values : Value) : Except Error (List Value) := do
  if values.map?.isSome then return [values]
  let documents ← values.items
  if documents.all (fun document => document.map?.isSome) then return documents
  else throw (.invalidQuery .notDocuments)

/-- Without documents there is nothing to send. -/
def insert (d : Dialect) (b : Builder) (values : Value) (line : Line) : Except Error Bool × Line :=
  match documentsOf values with
  | .error e => (.error e, line)
  | .ok [] => (.ok true, line)
  | .ok documents =>
    match line with
    | none => (.error .unbound, none)
    | some c =>
      match d.insertRequest b documents with
      | .error e => (.error e, some c)
      | .ok query =>
        match c.insert (.map query) .null with
        | (.error e, c) => (.error e, some c)
        | (.ok _, c) => (.ok true, some c)

def write {α : Type} (method : String) (query : Except Error Entries)
    (outcome : Value → Except Misuse α) : Line → Except Error α × Line
  | none => (.error .unbound, none)
  | some c =>
    match query with
    | .error e => (.error e, some c)
    | .ok query =>
      match c.run method (.map query) .null with
      | (.error e, c) => (.error e, some c)
      | (.ok reply, c) => (Misuse.lift (outcome reply), some c)

def update (d : Dialect) (b : Builder) (values : Value) (line : Line) : Except Error Bool × Line :=
  write "update" (do d.updateRequest b (← values.toEntries))
    (fun reply => do
      let result ← reply.get "result" .null
      return result == "updated" || result == "noop") line

def updateByQuery (d : Dialect) (store : Store) (b : Builder) (script params : Value)
    (line : Line) : Except Error Value × Line :=
  write "update_by_query"
    (do d.updateByQueryRequest store b script (.map (← (params.orElse (.map [])).toEntries)))
    (fun reply => reply.get "updated" (.int 0)) line

/-- A copy of a builder whose only condition is the id of a document. It is at no place yet. -/
def keyed (store : Store) (b : Builder) (id : Value) : Except Error Builder := do
  let criterion := Criterion.comparison b.keyName (some (.str "=")) (some id) Criterion.conjunction
  let bare : Builder := { b.clone with wheres := [], filters := [], postFilters := [] }
  return bare.place (← criterion.clauses store ⟨store.size⟩)

/-- Deletes one document by its id, or without an id all documents that the builder's query
matches. -/
def delete (d : Dialect) (store : Store) (b : Builder) (id : Value) (line : Line) :
    Except Error Bool × Line :=
  if id.isNull then
    write "delete_by_query" (d.deleteByQueryRequest store b)
      (fun reply => do return (← reply.get "deleted" .null).truthy) line
  else
    write "delete" (do d.deleteRequest (← b.keyed store id))
      (fun reply => do return (← reply.get "result" .null) == "deleted") line

end DocumentSearch.Builder
