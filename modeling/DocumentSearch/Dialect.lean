import DocumentSearch.Error
import DocumentSearch.Value.Dates

/-!
# Dialects

A dialect fixes how queries are written for one deployment: what is added to the name of every
index, how dates are written and which kinds of clauses cannot be written.
-/
namespace DocumentSearch

structure Dialect where
  suffix : Value
  datePattern : Value
  unsupported : List ClauseKind

namespace Dialect

def standard : Dialect := ⟨.str "", .str Value.defaultDatePattern, []⟩

/-- A suffix is optional, a pattern for dates is not. -/
def of (suffix datePattern : Value) : Except Error Dialect :=
  if datePattern.truthy then .ok ⟨if suffix.isNull then .str "" else suffix, datePattern, []⟩
  else .error (.invalidQuery .emptyDatePattern)

def indexName (d : Dialect) (name : Value) : Except Error String :=
  if name.truthy then .ok (name.text ++ d.suffix.text) else .error (.invalidQuery .noIndex)

def convert (d : Dialect) (v : Value) : Except Misuse Value := v.convertDates d.datePattern

def supports (d : Dialect) (kind : ClauseKind) : Bool := !d.unsupported.contains kind

def forget (d : Dialect) (kind : ClauseKind) : Dialect :=
  { d with unsupported := kind :: d.unsupported }

end Dialect

end DocumentSearch
