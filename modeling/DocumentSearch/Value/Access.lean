import DocumentSearch.Text.Part
import DocumentSearch.Value.Key

/-!
# Looking into values

Sequences, tables and texts give items one after the other. Reply objects are looked through, and so
is what belongs to a builder.
-/
namespace DocumentSearch.Value

/-- The items that a value yields one after the other: a table yields its keys, a text its
characters. -/
def items? : Value → Option (List Value)
  | list items => some items
  | tuple items => some items
  | map entries => some (Table.keys entries)
  | str s => some (s.toList.map (fun c => str c.toString))
  | bytes bs => some (bs.map (fun b => int b.toNat))
  | response body => items? body
  | view _ _ contents => items? contents
  | _ => none

def items (v : Value) : Except Misuse (List Value) :=
  match v.items? with
  | some items => .ok items
  | none => .error .illTyped

/-- The entries of a table, seen through a reply object. -/
def entries? : Value → Option Entries
  | map entries => some entries
  | response body => entries? body
  | view _ _ contents => entries? contents
  | _ => none

def entries (v : Value) : Except Misuse Entries :=
  match v.entries? with
  | some entries => .ok entries
  | none => .error .illTyped

/-- Whether a name is a key of a table, an item of a sequence or a part of a text. -/
def holds (name : String) : Value → Except Misuse Bool
  | map entries => .ok (Table.has entries (str name))
  | list items => .ok (items.contains (str name))
  | tuple items => .ok (items.contains (str name))
  | str s => .ok (Text.contains s name)
  | response body => holds name body
  | view _ _ contents => holds name contents
  | _ => .error .illTyped

/-- The value under a key of a table, or a default. -/
def get (v : Value) (key : String) (default : Value) : Except Misuse Value := do
  return ((← v.entries).find? key).getD default

def pair (v : Value) : Except Misuse (Value × Value) :=
  match v.items? with
  | some [key, value] => do return (← key.asKey, value)
  | some _ => .error .badValue
  | none => .error .illTyped

/-- A table as a value of its own; a sequence of pairs is one too. -/
def toEntries (v : Value) : Except Misuse Entries :=
  match v.entries? with
  | some entries => .ok entries
  | none => do return Table.ofPairs (← (← v.items).mapM pair)

/-- The value under a key of a table, or null. -/
def under (entries : Entries) (key : String) : Value := (entries.find? key).getD null

end DocumentSearch.Value
