import DocumentSearch.Calendar.Format
import DocumentSearch.Value.Access

/-!
# Dates in requests

Dates and moments are sent as text in a pattern. A sequence is converted item by item and becomes a
list; nothing deeper is touched. A pattern that is no text is refused once a date is met.
-/
namespace DocumentSearch.Value

def defaultDatePattern : String := "%Y-%m-%dT%H:%M:%S"

def dateText (m : Moment) : Value → Except Misuse Value
  | str pattern => .ok (str (m.format pattern))
  | _ => .error .illTyped

def convertDate (v pattern : Value) : Except Misuse Value :=
  match v with
  | date d => dateText d.midnight pattern
  | moment m => dateText m pattern
  | v => .ok v

def convertDates (v pattern : Value) : Except Misuse Value :=
  match v.sequence? with
  | some items => do return list (← items.mapM (convertDate · pattern))
  | none => v.convertDate pattern

end DocumentSearch.Value
