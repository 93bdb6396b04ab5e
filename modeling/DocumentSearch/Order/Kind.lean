/-!
# Kinds of orders

An order sorts by a field as it is, or by the distance of a field from given coordinates.
-/
namespace DocumentSearch

inductive OrderKind where
  | basic
  | geoDistance
  deriving DecidableEq, Repr

namespace OrderKind

def name : OrderKind → String
  | basic => "basic"
  | geoDistance => "geoDistance"

def ofName? (s : String) : Option OrderKind :=
  if s = "basic" then some basic else if s = "geoDistance" then some geoDistance else none

theorem ofName?_name (k : OrderKind) : ofName? k.name = some k := by cases k <;> rfl

end OrderKind

end DocumentSearch
