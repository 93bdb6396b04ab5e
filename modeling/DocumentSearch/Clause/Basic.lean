import DocumentSearch.Value.Basic

/-!
# Clauses

A clause is a condition on documents together with the way it joins the clauses before it.
Conditions on groups, nested documents and relatives refer to a builder that holds the inner
clauses. Every clause can be listed field by field.
-/
namespace DocumentSearch

namespace Condition

def kind : Condition → ClauseKind
  | basic .. => .basic
  | date .. => .date
  | among .. => .among
  | notAmong .. => .notAmong
  | between .. => .between
  | absent .. => .absent
  | present .. => .present
  | geoDistance .. => .geoDistance
  | geoBounds .. => .geoBounds
  | search .. => .search
  | group .. => .group
  | nestedDocument .. => .nestedDocument
  | negation .. => .negation
  | parent .. => .parent
  | child .. => .child
  | parentId .. => .parentId
  | startsWith .. => .startsWith
  | script .. => .script
  | functionScore .. => .functionScore

/-- The builder that a condition refers to. -/
def query? : Condition → Option Ref
  | group query _ => some query
  | nestedDocument _ query => some query
  | negation query => some query
  | parent _ query => some query
  | child _ query => some query
  | _ => none

def fields : Condition → List (String × Value)
  | basic column operator value =>
    [("column", column), ("operator", operator.text), ("value", value)]
  | date column operator value =>
    [("column", column), ("operator", operator.text), ("value", value)]
  | among column values => [("column", column), ("values", .list values)]
  | notAmong column values => [("column", column), ("values", .list values)]
  | between column low high => [("column", column), ("values", .list [low, high])]
  | absent column => [("column", column)]
  | present column => [("column", column)]
  | geoDistance column location distance =>
    [("column", column), ("location", location), ("distance", distance)]
  | geoBounds column bounds => [("column", column), ("bounds", bounds)]
  | search text fields matchType fuzziness constantScore =>
    [("text", text), ("fields", fields), ("match_type", matchType), ("fuzziness", fuzziness),
      ("constant_score", constantScore)]
  | group query part => [("query", .builder query), ("part", part)]
  | nestedDocument column query => [("column", column), ("query", .builder query)]
  | negation query => [("query", .builder query)]
  | parent documentType query => [("document_type", documentType), ("query", .builder query)]
  | child documentType query => [("document_type", documentType), ("query", .builder query)]
  | parentId relationType id => [("relation_type", relationType), ("id", id)]
  | startsWith column value => [("column", column), ("value", value)]
  | script source params lang => [("source", source), ("params", params), ("lang", lang)]
  | functionScore functionType arguments =>
    [("function_type", functionType), ("arguments", arguments)]

end Condition

namespace Clause

def kind (c : Clause) : ClauseKind := c.condition.kind

def isOr (c : Clause) : Bool := c.connective = .disjunction

def fields (c : Clause) : List (String × Value) :=
  ("boolean", c.connective.name) :: ("negated", c.negated) :: ("options", .map c.options) ::
    c.condition.fields

end Clause

namespace Order

def fields (o : Order) : List (String × Value) :=
  [("column", o.column), ("direction", o.direction), ("type", o.kind.name),
    ("options", o.options)]

end Order

namespace Aggregation

def fields (a : Aggregation) : List (String × Value) :=
  [("key", a.key), ("type", a.type), ("args", a.args),
    ("aggregations", (a.sub.map Value.builder).getD .null)]

end Aggregation

end DocumentSearch
