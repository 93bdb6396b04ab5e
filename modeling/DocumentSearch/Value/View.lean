import DocumentSearch.Value.Basic

/-!
# Bringing views up to date

A view inside a value is given new contents wherever it stands: in lists and tables, in clauses,
orders and aggregations, and in the fields of records.
-/
namespace DocumentSearch

mutual

/-- A value whose views show what is looked up for them. -/
def Value.showing (look : Part → Ref → Value) : Value → Value
  | .list items => .list (showingEach look items)
  | .tuple items => .tuple (showingEach look items)
  | .map entries => .map (showingPairs look entries)
  | .record cls attributes => .record cls (showingFields look attributes)
  | .response body => .response (Value.showing look body)
  | .convertible target => .convertible (Value.showing look target)
  | .clause c => .clause (Clause.showing look c)
  | .order o => .order (Order.showing look o)
  | .aggregation a => .aggregation (Aggregation.showing look a)
  | .entity type fields => .entity type (showingFields look fields)
  | .view part ref _ => .view part ref (look part ref)
  | v => v
termination_by structural v => v

def showingEach (look : Part → Ref → Value) : List Value → List Value
  | [] => []
  | v :: rest => Value.showing look v :: showingEach look rest
termination_by structural vs => vs

def showingPair (look : Part → Ref → Value) : Value × Value → Value × Value
  | (k, v) => (k, Value.showing look v)
termination_by structural p => p

def showingPairs (look : Part → Ref → Value) : List (Value × Value) → List (Value × Value)
  | [] => []
  | p :: rest => showingPair look p :: showingPairs look rest
termination_by structural ps => ps

def showingField (look : Part → Ref → Value) : String × Value → String × Value
  | (name, v) => (name, Value.showing look v)
termination_by structural p => p

def showingFields (look : Part → Ref → Value) : List (String × Value) → List (String × Value)
  | [] => []
  | p :: rest => showingField look p :: showingFields look rest
termination_by structural ps => ps

def Condition.showing (look : Part → Ref → Value) : Condition → Condition
  | .basic column operator value =>
    .basic (Value.showing look column) operator (Value.showing look value)
  | .date column operator value =>
    .date (Value.showing look column) operator (Value.showing look value)
  | .among column values => .among (Value.showing look column) (showingEach look values)
  | .notAmong column values => .notAmong (Value.showing look column) (showingEach look values)
  | .between column low high =>
    .between (Value.showing look column) (Value.showing look low) (Value.showing look high)
  | .absent column => .absent (Value.showing look column)
  | .present column => .present (Value.showing look column)
  | .geoDistance column location distance =>
    .geoDistance (Value.showing look column) (Value.showing look location)
      (Value.showing look distance)
  | .geoBounds column area => .geoBounds (Value.showing look column) (Value.showing look area)
  | .search text fields matchType fuzziness constantScore =>
    .search (Value.showing look text) (Value.showing look fields) (Value.showing look matchType)
      (Value.showing look fuzziness) (Value.showing look constantScore)
  | .group query part => .group query (Value.showing look part)
  | .nestedDocument column query => .nestedDocument (Value.showing look column) query
  | .negation query => .negation query
  | .parent documentType query => .parent (Value.showing look documentType) query
  | .child documentType query => .child (Value.showing look documentType) query
  | .parentId relationType id =>
    .parentId (Value.showing look relationType) (Value.showing look id)
  | .startsWith column value => .startsWith (Value.showing look column) (Value.showing look value)
  | .script source params lang =>
    .script (Value.showing look source) (Value.showing look params) (Value.showing look lang)
  | .functionScore functionType arguments =>
    .functionScore (Value.showing look functionType) (Value.showing look arguments)
termination_by structural c => c

def Clause.showing (look : Part → Ref → Value) : Clause → Clause
  | ⟨connective, negated, options, condition⟩ =>
    ⟨connective, Value.showing look negated, showingPairs look options,
      Condition.showing look condition⟩
termination_by structural c => c

def Order.showing (look : Part → Ref → Value) : Order → Order
  | ⟨column, direction, kind, options⟩ =>
    ⟨Value.showing look column, Value.showing look direction, kind, Value.showing look options⟩
termination_by structural o => o

def Aggregation.showing (look : Part → Ref → Value) : Aggregation → Aggregation
  | ⟨key, type, args, sub⟩ => ⟨key, type, Value.showing look args, sub⟩
termination_by structural a => a

end

end DocumentSearch
