import DocumentSearch.Connection.Basic
import DocumentSearch.Page
import DocumentSearch.Request.Search

/-!
# Reading through a builder

A builder fetches its documents once for each page and keeps them until the page changes. Every
reading looks at what the last fetch left.
-/
namespace DocumentSearch

/-- The connection of a builder, if it is bound to one. -/
abbrev Line := Option Connection

namespace Builder

def samePage (cached : Cached) (b : Builder) : Bool :=
  cached.offset = b.offset &&
    match cached.limit, b.limit with
    | none, none => true
    | some m, some n => m.same n
    | _, _ => false

/-- The documents that are kept for the page that the builder is on. -/
def kept? (b : Builder) : Option (List Value) :=
  match b.cache with
  | some cached => if samePage cached b then some cached.documents else none
  | none => none

def keep (b : Builder) (documents : List Value) : Builder :=
  { b with cache := some ⟨documents, b.offset, b.limit⟩ }

def fetch (d : Dialect) (store : Store) (b : Builder) :
    Line → Except Error (List Value) × Builder × Line
  | none => (.error .unbound, b, none)
  | some c =>
    match d.searchRequest store b with
    | .error e => (.error e, b, some c)
    | .ok request =>
      match c.select (.map request.toEntries) .null with
      | (.error e, c) => (.error e, b, some c)
      | (.ok reply, c) =>
        match Reply.process b.expandInnerHits reply b.summary with
        | (.error e, summary) => (.error e, { b with summary := summary }, some c)
        | (.ok documents, summary) =>
          (.ok documents, { b with summary := summary }.keep documents, some c)

def results (d : Dialect) (store : Store) (b : Builder) (line : Line) :
    Except Error (List Value) × Builder × Line :=
  match b.kept? with
  | some documents => (.ok documents, b.keep documents, line)
  | none => b.fetch d store line

/-- The columns of one reading, if the builder selects none itself. -/
def columnsFor (b : Builder) (columns : Value) : Except Misuse (List Value) :=
  if b.columns.isEmpty && columns.truthy then columns.items else .ok b.columns

def read (d : Dialect) (store : Store) (b : Builder) (columns : Value) (line : Line) :
    Except Error (List Value) × Builder × Line :=
  match b.columnsFor columns with
  | .error e => (.error (.misuse e), b, line)
  | .ok chosen =>
    let (result, b', line) := { b with columns := chosen }.results d store line
    (result, { b' with columns := b.columns }, line)

/-- The first document, read as a page of its own. -/
def readFirst (d : Dialect) (store : Store) (b : Builder) (columns : Value) (line : Line) :
    Except Error Value × Builder × Line :=
  match { b with limit := some (.int 1) }.read d store columns line with
  | (.ok documents, b, line) => (.ok (documents.head?.getD .null), b, line)
  | (.error e, b, line) => (.error e, b, line)

def pageOf (b : Builder) (documents : List Value) (page perPage : Value) : Except Error Page := do
  let total ← b.summary.total
  let number := (Number.int 1).max (← page.number)
  Page.of (.list documents) total (.ofNumber number) perPage (b.summary.aggregations.orElse .null)
    b.summary.took

def paginate (d : Dialect) (store : Store) (b : Builder) (page perPage : Value) (line : Line) :
    Except Error Page × Builder × Line :=
  match b.withPage page perPage with
  | (.error e, b) => (.error e, b, line)
  | (.ok (), b) =>
    match b.read d store .null line with
    | (.error e, b, line) => (.error e, b, line)
    | (.ok documents, b, line) => (b.pageOf documents page perPage, b, line)

/-- The builder that only counts: one document at most, with nothing of it but the id. -/
def counter (b : Builder) : Builder :=
  { b.clone with columns := [.str "_id"], orders := [], offset := 0, limit := some (.int 1) }

/-- The total of the last fetch, or of a request that only counts and leaves the builder alone. -/
def count (d : Dialect) (store : Store) (b : Builder) (line : Line) : Except Error Value × Line :=
  match b.cache with
  | some _ => (Misuse.lift b.summary.total, line)
  | none =>
    match b.counter.results d store line with
    | (.error e, _, line) => (.error e, line)
    | (.ok _, counted, line) => (Misuse.lift counted.summary.total, line)

/-- Something said by the reply to the last fetch, after fetching if need be. -/
def summaryRead (d : Dialect) (store : Store) (b : Builder) (line : Line) (f : Summary → Value) :
    Except Error Value × Builder × Line :=
  match b.results d store line with
  | (.error e, b, line) => (.error e, b, line)
  | (.ok _, b, line) => (.ok (f b.summary), b, line)

end Builder

end DocumentSearch
