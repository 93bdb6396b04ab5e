import DocumentSearch.Text.SnakeCase
import DocumentSearch.Value.Key

/-!
# Classes of records

A class of records says where its records are kept and which of their attributes are shown.
-/
namespace DocumentSearch.RecordClass

def named (given : Option String) (name : String) : String :=
  match given with
  | some s => if s = "" then Text.snakeCase name else s
  | none => Text.snakeCase name

/-- Without an index of its own a class has the one named after it. -/
def index (c : RecordClass) : String := named c.searchIndex c.name

def type (c : RecordClass) : String := named c.searchType c.name

/-- Declared attributes are exported whatever their names, other ones only if they are not
private. -/
def exports (c : RecordClass) (name : String) : Bool :=
  c.declared || !(name.toList.head? = some '_')

def exported (c : RecordClass) (attributes : List (String × Value)) : Entries :=
  (attributes.filter (fun p => c.exports p.1)).map (fun p => (.str p.1, p.2))

end DocumentSearch.RecordClass
