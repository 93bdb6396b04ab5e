import DocumentSearch.Proofs.Matching.Bucket

/-!
# The meaning of a builder

What the clauses of a builder ask of documents, said without writing any query. A leaf condition
asks for its leaf, or denies it. A condition on another builder asks for what that builder asks: in
parentheses, of nested documents or relatives, or denied. A bucket joins its clauses in order.
-/
namespace DocumentSearch

open Fragment

/-- What the three buckets of a builder ask of documents; an empty bucket asks for nothing. -/
structure Senses (Doc : Type) where
  query : Option (Doc → Bool)
  filter : Option (Doc → Bool)
  postFilter : Option (Doc → Bool)

namespace Senses

variable {Doc : Type}

def silent : Senses Doc := ⟨none, none, none⟩

def part (s : Senses Doc) : Bucket → Option (Doc → Bool)
  | .query => s.query
  | .filter => s.filter
  | .postFilter => s.postFilter

def firstPart (s : Senses Doc) : Option (Doc → Bool) := s.query.or (s.filter.or s.postFilter)

def meets (asked : Option (Doc → Bool)) (doc : Doc) : Bool := (asked.map (· doc)).getD true

def matched (s : Senses Doc) (doc : Doc) : Bool := meets s.query doc && meets s.filter doc

end Senses

namespace Engine

variable {Doc : Type} (e : Engine Doc) (d : Dialect)

/-- A leaf fragment with its options. One that cannot be written matches nothing. -/
def atom (options fragment : Entries) (doc : Doc) : Bool :=
  match withOptions fragment options with
  | .ok written => e.leaf written doc
  | .error _ => false

/-- What is asked with a value that may be impossible to write. -/
def whenWritten {ε α : Type} (value : Except ε α) (asked : α → Doc → Bool) (doc : Doc) : Bool :=
  match value with
  | .ok a => asked a doc
  | .error _ => false

def existsSense (options : Entries) (column : Value) : Doc → Bool :=
  e.atom options [("exists", .map [("field", column)])]

def comparedSense (options : Entries) (column : Value) (operator : Operator) (value : Value) :
    Doc → Bool :=
  match operator.rangeKey? with
  | some key => e.atom options [("range", .map [(column, .map [(.str key, value)])])]
  | none => e.atom options [("term", .map [(column, value)])]

/-- A test for existence, and a comparison with null, are about the field being there; any other
comparison is about its value. Asking for absence or for another value denies, and so does the
negation of any comparison. -/
def comparisonSense (column : Value) (operator : Operator) (value : Value) (options : Entries)
    (negated : Bool) : Doc → Bool :=
  whenWritten (d.convert value) fun value doc =>
    if operator = .exists then
      e.existsSense options column doc != (negated || !value.truthy)
    else if value.isNull then
      e.existsSense options column doc != (negated || !operator.negates)
    else e.comparedSense options column operator value doc != (negated || operator.negates)

/-- Inside a range with both ends; negated, below its lower or above its upper end, with the ends
themselves. -/
def betweenSense (column low high : Value) (options : Entries) (negated : Bool) : Doc → Bool :=
  whenWritten (low.convertDate d.datePattern) fun low =>
    whenWritten (high.convertDate d.datePattern) fun high doc =>
      if negated then
        e.leaf [("range", .map [(column, .map [("lte", low)])])] doc ||
          e.leaf [("range", .map [(column, .map [("gte", high)])])] doc
      else e.atom options [("range", .map [(column, .map [("gte", low), ("lte", high)])])] doc

def amongSense (column : Value) (values : List Value) (options : Entries) (negated : Bool) :
    Doc → Bool :=
  whenWritten (d.convert (.list values)) fun terms doc =>
    e.atom options [("terms", .map [(column, terms)])] doc != negated

def searchSense (text fields matchType fuzziness : Value) (constantScore : Bool)
    (options : Entries) (negated : Bool) : Doc → Bool :=
  whenWritten (Dialect.textMatch text fields matchType fuzziness) fun fragment doc =>
    let fragment : Entries :=
      if constantScore then [("constant_score", .map [("filter", .map fragment)])] else fragment
    e.atom options fragment doc != negated

/-- A group asks for what one bucket asks: the one that it names, or else the first that asks for
anything. -/
def groupSense (inner : Senses Doc) (part : Value) : Doc → Bool :=
  whenWritten (Dialect.partOf part) fun part =>
    Senses.meets (match part with
      | some b => inner.part b
      | none => inner.firstPart)

/-- What a condition asks, where `sub` tells what the builders ask that it refers to. A group, a
negation, a parent id, a script and a score function have no negative form of their own. -/
def conditionSense (sub : Ref → Senses Doc) (options : Entries) (negated : Bool) :
    Condition → Doc → Bool
  | .basic column operator value => e.comparisonSense d column operator value options negated
  | .date column operator value =>
    if operator = .equal then e.betweenSense d column value value options negated
    else e.comparisonSense d column operator value options negated
  | .among column values => e.amongSense d column values options negated
  | .notAmong column values => e.amongSense d column values options true
  | .between column low high => e.betweenSense d column low high options negated
  | .absent column => e.comparisonSense d column .equal .null options negated
  | .present column => e.comparisonSense d column .unequal .null options negated
  | .geoDistance column location distance => fun doc =>
    e.leaf [("geo_distance", .map (Table.insert [("distance", distance)] column location))] doc !=
      negated
  | .geoBounds column bounds => fun doc =>
    e.leaf [("geo_bounding_box", .map [(column, bounds)])] doc != negated
  | .search text fields matchType fuzziness constantScore =>
    e.searchSense text fields matchType fuzziness constantScore.truthy options negated
  | .group query part => groupSense (sub query) part
  | .nestedDocument column query => fun doc =>
    e.joined .nested column (sub query).matched doc != negated
  | .negation query => fun doc => !(sub query).matched doc
  | .parent documentType query => fun doc =>
    e.joined .parent documentType (sub query).matched doc != negated
  | .child documentType query => fun doc =>
    e.joined .child documentType (sub query).matched doc != negated
  | .parentId relationType id => e.leaf [("parent_id", .map [("type", relationType), ("id", id)])]
  | .startsWith column value => fun doc =>
    e.atom options [("prefix", .map [(column, value)])] doc != negated
  | .script source params lang => whenWritten (d.script source params lang) e.leaf
  | .functionScore functionType arguments =>
    whenWritten arguments.toEntries fun arguments =>
      e.leaf [("function_score", .map [(functionType, .map arguments)])]

theorem conditionSense_congr {sub other : Ref → Senses Doc} {options : Entries} {negated : Bool}
    {c : Condition} (same : ∀ ref, c.query? = some ref → sub ref = other ref) :
    e.conditionSense d sub options negated c = e.conditionSense d other options negated c := by
  cases c <;> simp only [conditionSense]
  all_goals rw [same _ rfl]

def clauseSense (sub : Ref → Senses Doc) (c : Clause) : Doc → Bool :=
  e.conditionSense d sub c.options c.negated.truthy c.condition

def bucketSense (sub : Ref → Senses Doc) (clauses : List Clause) : Option (Doc → Bool) :=
  if clauses.isEmpty then none
  else some (Chain.holds (clauses.map (fun c => (c.isOr, e.clauseSense d sub c))))

def builderSenses (sub : Ref → Senses Doc) (b : Builder) : Senses Doc :=
  ⟨e.bucketSense d sub b.wheres, e.bucketSense d sub b.filters, e.bucketSense d sub b.postFilters⟩

/-- What a builder asks whose references lead at most `depth` builders further. -/
def sensesWithin (store : Store) : Nat → Builder → Senses Doc
  | 0, b => e.builderSenses d (fun _ => .silent) b
  | depth + 1, b => e.builderSenses d (fun ref => sensesWithin store depth (store.get ref)) b

/-- What a builder asks of documents. No path of references is longer than the store, unless it
turns back on itself. -/
def senses (store : Store) (b : Builder) : Senses Doc := e.sensesWithin d store store.size b

end Engine

end DocumentSearch
