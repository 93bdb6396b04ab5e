import DocumentSearch.Request.Search
import DocumentSearch.Proofs.Outcome

/-!
# What a search is refused for

A search that cannot be written is refused because the query is to blame, because a value in it is
misused, or because a builder is inside itself. It is not refused in any other way.
-/
namespace DocumentSearch

open Fragment Outcome

def Error.OfQuery (e : Error) : Prop :=
  e.blamesQuery = true ∨ e = .circularQuery ∨ ∃ m, e = .misuse m

/-- The errors of a kind include all that a request can be refused for without looking into other
builders. -/
class Error.Covers (P : Error → Prop) : Prop where
  blame : ∀ e, e.blamesQuery = true → P e
  misuse : ∀ m, P (.misuse m)

instance : Error.Covers Error.OfQuery := ⟨fun _ => .inl, fun m => .inr (.inr ⟨m, rfl⟩)⟩

/-- A step of writing a request. -/
abbrev Writes {α : Type} (P : Error → Prop) (x : Except Error α) : Prop := FailsWith P x

variable {P : Error → Prop} [Error.Covers P]

namespace Writes

variable {α : Type}

theorem lift (x : Except Misuse α) : Writes P (Misuse.lift x) := by
  cases x with
  | ok a => exact .ok a
  | error m => exact .error (Error.Covers.misuse m)

theorem blame {e : Error} (h : e.blamesQuery = true) : Writes P (.error e : Except Error α) :=
  .error (Error.Covers.blame e h)

end Writes

namespace Dialect

variable (d : Dialect)

theorem writes_comparison (column : Value) (operator : Operator) (value : Value)
    (options : Entries) (negated : Bool) :
    Writes P (d.comparison column operator value options negated) := by
  refine .bind (Writes.lift _) fun value => ?_
  split
  · exact .bind (Writes.lift _) fun _ => .ok _
  · dsimp only
    split <;> exact .bind (Writes.lift _) fun _ => .bind (Writes.lift _) fun _ => .ok _

theorem writes_between (column low high : Value) (options : Entries) (negated : Bool) :
    Writes P (d.between column low high options negated) := by
  refine .bind (Writes.lift _) fun _ => .bind (Writes.lift _) fun _ =>
    .bind (Writes.lift _) fun _ => ?_
  split
  · exact .ok _
  · exact Writes.lift _

theorem writes_among (column : Value) (values : List Value) (options : Entries) (negated : Bool) :
    Writes P (d.among column values options negated) :=
  .bind (Writes.lift _) fun _ => .bind (Writes.lift _) fun _ => .bind (Writes.lift _) fun _ => .ok _

theorem writes_search (text fields matchType fuzziness : Value) (constantScore : Bool)
    (options : Entries) (negated : Bool) :
    Writes P (search text fields matchType fuzziness constantScore options negated) :=
  .bind (Writes.lift _) fun _ => .bind (Writes.lift _) fun _ => .ok _

theorem writes_group (inner : Conditions) (part : Value) (options : Entries) :
    Writes P (group inner part options) := by
  have whole (fragment : Entries) :
      Writes P (if fragment.isEmpty then return matchAll else withOptions fragment options) := by
    split
    · exact .ok _
    · exact Writes.lift _
  exact .bind (Writes.lift _) fun _ => whole _

theorem writes_nestedDocument (column : Value) (inner : Conditions) (options : Entries)
    (negated : Bool) : Writes P (nestedDocument column inner options negated) := by
  unfold nestedDocument
  split
  · exact Writes.blame rfl
  · exact .bind (Writes.lift _) fun _ => .ok _

theorem writes_negation (inner : Conditions) : Writes P (negation inner) := by
  unfold negation
  split
  · exact Writes.blame rfl
  · exact .ok _

theorem writes_relation (kind : ClauseKind) (outer typeKey : String) (documentType : Value)
    (inner : Conditions) (options : Entries) (negated : Bool) :
    Writes P (relation kind outer typeKey documentType inner options negated) := by
  unfold relation
  split
  · exact Writes.blame rfl
  · exact .bind (Writes.lift _) fun _ => .ok _

variable {sub : Ref → Except Error Conditions}

theorem writes_conditionFragment {c : Condition}
    (h : ∀ ref, c.query? = some ref → Writes P (sub ref)) (options : Entries) (negated : Bool) :
    Writes P (d.conditionFragment sub options negated c) := by
  cases c with
  | basic column operator value => exact d.writes_comparison _ _ _ _ _
  | date column operator value =>
    simp only [conditionFragment]
    split
    · exact d.writes_between _ _ _ _ _
    · exact d.writes_comparison _ _ _ _ _
  | among column values => exact d.writes_among _ _ _ _
  | notAmong column values => exact d.writes_among _ _ _ _
  | between column low high => exact d.writes_between _ _ _ _ _
  | absent column => exact d.writes_comparison _ _ _ _ _
  | present column => exact d.writes_comparison _ _ _ _ _
  | geoDistance column location distance =>
    exact .bind (Writes.lift _) fun _ => .bind (Writes.lift _) fun _ => .ok _
  | geoBounds column bounds => exact .bind (Writes.lift _) fun _ => .ok _
  | search text fields matchType fuzziness constantScore => exact writes_search _ _ _ _ _ _ _
  | group query part => exact (h query rfl).bind fun _ => writes_group _ _ _
  | nestedDocument column query => exact (h query rfl).bind fun _ => writes_nestedDocument _ _ _ _
  | negation query => exact (h query rfl).bind fun _ => writes_negation _
  | parent documentType query => exact (h query rfl).bind fun _ => writes_relation _ _ _ _ _ _ _
  | child documentType query => exact (h query rfl).bind fun _ => writes_relation _ _ _ _ _ _ _
  | parentId relationType id => exact .ok _
  | startsWith column value =>
    exact .bind (Writes.lift _) fun _ => .bind (Writes.lift _) fun _ => .ok _
  | script source params lang => exact .bind (Writes.lift _) fun _ => .ok _
  | functionScore functionType arguments =>
    exact .bind (Writes.lift _) fun _ => .bind (Writes.lift _) fun _ => .ok _

theorem writes_clauseFragment {c : Clause}
    (h : ∀ ref, c.condition.query? = some ref → Writes P (sub ref)) :
    Writes P (d.clauseFragment sub c) := by
  unfold clauseFragment
  split
  · exact d.writes_conditionFragment h _ _
  · exact Writes.blame rfl

theorem writes_bucketFragment {clauses : List Clause}
    (h : ∀ c ∈ clauses, ∀ ref, c.condition.query? = some ref → Writes P (sub ref)) :
    Writes P (d.bucketFragment sub clauses) :=
  .bind (.foldlM (fun _ c mem => (d.writes_clauseFragment (h c mem)).bind fun _ => .ok _) _)
    fun _ => .ok _

theorem writes_bucketFragments {b : Builder}
    (h : ∀ k, ∀ c ∈ b.bucket k, ∀ ref, c.condition.query? = some ref → Writes P (sub ref)) :
    Writes P (d.bucketFragments sub b) :=
  .bind (d.writes_bucketFragment (h .query)) fun _ =>
    .bind (d.writes_bucketFragment (h .filter)) fun _ =>
      .bind (d.writes_bucketFragment (h .postFilter)) fun _ => .ok _

theorem writes_conditionsWithin (store : Store) (depth : Nat) (b : Builder) :
    Writes Error.OfQuery (d.conditionsWithin store depth b) := by
  induction depth generalizing b with
  | zero => exact d.writes_bucketFragments fun _ _ _ _ _ => .error (.inr (.inl rfl))
  | succ depth ih => exact d.writes_bucketFragments fun _ _ _ ref _ => ih (store.get ref)

end Dialect

namespace Aggregation

variable (a : Aggregation)

theorem writes_argument (name : String) : Writes P (a.argument name) := by
  unfold argument
  split
  · split
    · exact .ok _
    · exact Writes.blame rfl
  · exact .ok _

theorem writes_extendedBounds (pattern given : Value) :
    Writes P (a.extendedBounds pattern given) := by
  unfold extendedBounds
  dsimp only
  split
  · exact .ok _
  · exact .bind (Writes.lift _) fun _ => .bind (Writes.lift _) fun _ => .ok _
  · exact Writes.blame rfl

theorem writes_fragment (pattern : Value) {sub : Ref → Except Error Conditions}
    (h : ∀ ref, a.args = .builder ref → Writes P (sub ref)) :
    Writes P (a.fragment pattern sub) := by
  unfold fragment
  split
  · exact Writes.blame rfl
  · exact (a.writes_argument _).bind fun _ => .ok _
  · exact (a.writes_argument _).bind fun _ => (a.writes_extendedBounds _ _).bind fun _ => .ok _
  · exact .ok _
  · exact (a.writes_argument _).bind fun _ => .ok _
  · split
    · rename_i ref args
      exact (h ref args).bind fun _ => .ok _
    · exact Writes.blame rfl
  · exact (a.writes_argument _).bind fun _ => .ok _
  · exact .ok _
  · exact (a.writes_argument _).bind fun _ => .ok _
  · exact (a.writes_argument _).bind fun _ => .ok _

end Aggregation

namespace Dialect

variable (d : Dialect) (store : Store)

theorem writes_aggregationsWith {inside : Builder → Except Error Entries} {b : Builder}
    (filters : ∀ a ∈ b.aggregations, ∀ ref, a.args = .builder ref →
      Writes P (d.conditions store (store.get ref)))
    (h : ∀ a ∈ b.aggregations, ∀ ref, a.sub = some ref → Writes P (inside (store.get ref))) :
    Writes P (d.aggregationsWith store inside b) := by
  refine .foldlM (fun written a mem => .bind ?_ fun _ => .ok _) []
  refine .bind (a.writes_fragment d.datePattern (filters a mem)) fun _ => ?_
  split
  · rename_i ref sub
    split
    · exact (h a mem ref sub).bind fun _ => .ok _
    · exact .ok _
  · exact .ok _

theorem writes_aggregationsWithin (depth : Nat) (b : Builder) :
    Writes Error.OfQuery (d.aggregationsWithin store depth b) := by
  have filters : ∀ ref, Writes Error.OfQuery (d.conditions store (store.get ref)) := fun ref =>
    d.writes_conditionsWithin store store.size (store.get ref)
  induction depth generalizing b with
  | zero =>
    exact d.writes_aggregationsWith store (fun _ _ ref _ => filters ref)
      fun _ _ _ _ => .error (.inr (.inl rfl))
  | succ depth ih =>
    exact d.writes_aggregationsWith store (fun _ _ ref _ => filters ref) fun _ _ ref _ => ih _

theorem writes_order (o : Order) : Writes P o.fragment := by
  refine .bind ?_ fun _ => .bind (Writes.lift _) fun _ => ?_
  · unfold Order.descending
    split
    · exact .ok _
    · exact Writes.lift (.error .illTyped)
  · split
    · exact .bind (Writes.lift _) fun _ => .ok _
    · exact Writes.lift _

theorem writes_search_of {b : Builder} (conditions : Writes P (d.conditions store b))
    (aggregations : Writes P (d.aggregations store b)) : Writes P (d.searchRequest store b) := by
  have orders : Writes P (b.orders.mapM Order.fragment) := .mapM writes_order
  have index : Writes P (d.indexName b.index) := by
    unfold indexName
    split
    · exact .ok _
    · exact Writes.blame rfl
  refine .bind (.bind conditions fun parts => ?_) fun _ => index.bind fun _ => .ok _
  cases b.aggregations.isEmpty with
  | true => exact orders.bind fun _ => .ok _
  | false => exact aggregations.bind fun _ => orders.bind fun _ => .ok _

theorem writes_searchRequest (b : Builder) : Writes Error.OfQuery (d.searchRequest store b) :=
  d.writes_search_of store (d.writes_conditionsWithin store store.size b)
    (d.writes_aggregationsWithin store store.size b)

end Dialect

end DocumentSearch
