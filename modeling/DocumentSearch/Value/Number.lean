import DocumentSearch.Text.Bytes
import DocumentSearch.Value.Basic

/-!
# Numbers in values

A number may be given as such or written out, in a text or in bytes.
-/
namespace DocumentSearch.Value

def number (v : Value) : Except Misuse Number :=
  match v.number? with
  | some n => .ok n
  | none => .error .illTyped

/-- The text of a value that is written text. -/
def written? : Value → Option (Option String)
  | str s => some (some s)
  | bytes bs => some (Text.asciiText? bs)
  | _ => none

/-- A whole number from a number, dropping what is after the point, or from its text. -/
def whole (v : Value) : Except Misuse Int :=
  match v.number?, v.written? with
  | some n, _ => n.truncate
  | none, some s =>
    match s.bind Number.readWhole? with
    | some i => .ok i
    | none => .error .badValue
  | none, none => .error .illTyped

/-- A floating-point number from its text. -/
def real? (v : Value) : Option Binary64 := v.written?.join.bind Number.readReal?

end DocumentSearch.Value
