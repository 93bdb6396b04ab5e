import DocumentSearch.Proofs.Fluent.Stated
import DocumentSearch.Proofs.Matching.Occurrence
import DocumentSearch.Proofs.Matching.Search
import DocumentSearch.Proofs.Reference

/-!
# Conditions that a search keeps

A builder inside another one is used by a clause or by a filter aggregation, and each such place
takes some of its buckets. Every clause in a bucket that is taken stands in the search with its
fragment, at whatever depth the builder is. A place that cannot express the buckets of a builder
together is refused.
-/
namespace DocumentSearch

open Fragment Outcome

/-- Where a builder is used inside another one. -/
inductive Place where
  | condition (c : Condition)
  | aggregation

def Builder.Leads (b : Builder) : Bucket → Prop
  | .query => True
  | .filter => b.wheres = []
  | .postFilter => b.wheres = [] ∧ b.filters = []

/-- The buckets that a place takes of the builder inside it. A group takes the bucket that it names,
or without a name the first one that is not empty. -/
def Place.Takes (inner : Builder) (k : Bucket) : Place → Prop
  | .condition (.group _ part) =>
    Dialect.partOf part = .ok (some k) ∨ Dialect.partOf part = .ok none ∧ inner.Leads k
  | .condition (.nestedDocument _ _) => True
  | _ => k ≠ .postFilter

/-- Whether a condition has no place for all that the builder inside it asks. -/
def Condition.Conflicts (inner : Builder) : Condition → Prop
  | .nestedDocument _ _ => inner.postFilters ≠ []
  | .negation _ => inner.wheres ≠ [] ∧ inner.filters ≠ []
  | .parent _ _ => inner.wheres ≠ [] ∧ inner.filters ≠ []
  | .child _ _ => inner.wheres ≠ [] ∧ inner.filters ≠ []
  | _ => False

/-- An aggregation that no later one of its builder replaces. -/
def Builder.Reports (b : Builder) (a : Aggregation) : Prop :=
  ∃ before after, b.aggregations = before ++ a :: after ∧ ∀ other ∈ after, other.key ≠ a.key

namespace Store

variable (store : Store) (taken : Builder → Bucket → Place → Prop)

/-- The clauses in a bucket of a builder, and those in the buckets that are taken of the builders
inside it. -/
inductive Holds : Builder → Bucket → Clause → Prop where
  | own {b : Builder} {k : Bucket} {c : Clause} (mem : c ∈ b.bucket k) : Holds b k c
  | inside {b : Builder} {k j : Bucket} {outer c : Clause} {ref : Ref} (mem : outer ∈ b.bucket k)
      (refers : outer.condition.query? = some ref)
      (takes : taken (store.get ref) j (.condition outer.condition))
      (held : Holds (store.get ref) j c) : Holds b k c

/-- The clauses in the filter aggregations of a builder, at any depth of aggregations. -/
inductive Filters : Builder → Clause → Prop where
  | own {b : Builder} {a : Aggregation} {ref : Ref} {k : Bucket} {c : Clause} (stays : b.Reports a)
      (kind : AggregationKind.ofType? a.type = some .filter) (args : a.args = .builder ref)
      (takes : taken (store.get ref) k .aggregation)
      (held : store.Holds taken (store.get ref) k c) : Filters b c
  | inside {b : Builder} {a : Aggregation} {ref : Ref} {c : Clause} (stays : b.Reports a)
      (sub : a.sub = some ref) (held : Filters (store.get ref) c) : Filters b c

/-- The clauses that a search for a builder is made of. -/
def Covers (b : Builder) (c : Clause) : Prop :=
  (∃ k, store.Holds taken b k c) ∨ store.Filters taken b c

end Store

def Criterion.Joins (inner : Ref) : Criterion → Prop
  | group query _ => query = .builder inner
  | comparison column _ _ _ => column = .builder inner
  | _ => False

theorem Criterion.clauses_of_joins {criterion : Criterion} {inner self : Ref} {store : Store}
    {clauses : List (Bucket × Clause)} (joins : criterion.Joins inner)
    (h : criterion.clauses store self = .ok clauses) :
    ∃ connective, clauses = store.groupings connective inner := by
  have grouped : ∃ connective, groupClauses store (.builder inner) connective = .ok clauses := by
    cases criterion with
    | group query connective =>
      obtain rfl : query = .builder inner := joins
      exact ⟨connective, h⟩
    | comparison column operator value connective =>
      obtain rfl : column = .builder inner := joins
      exact ⟨connective, h⟩
    | _ => exact joins.elim
  obtain ⟨connective, grouped⟩ := grouped
  obtain ⟨inner, connective, same, rfl⟩ := groupClauses_eq_ok grouped
  cases same
  exact ⟨connective, rfl⟩

theorem Store.holds_place_groupings {store : Store} {inner : Ref} (connective : Connective)
    (b : Builder) {k : Bucket} (before : k ≠ .postFilter) {c : Clause}
    (held : store.Holds Place.Takes (store.get inner) k c) :
    store.Holds Place.Takes (b.place (store.groupings connective inner)) k c := by
  have some : (store.get inner).bucket k ≠ [] := by
    cases held with
    | own mem => exact List.ne_nil_of_mem mem
    | inside mem => exact List.ne_nil_of_mem mem
  have added : (k, Clause.grouping connective inner k) ∈ store.groupings connective inner :=
    mem_groupings.mpr ⟨before, some, rfl⟩
  have takes : Place.Takes (store.get inner) k
      (.condition (Clause.grouping connective inner k).condition) := .inl (by cases k <;> rfl)
  refine .inside ?_ rfl takes held
  rw [Builder.bucket_place]
  exact List.mem_append_right _ (List.mem_map.mpr
    ⟨(k, .grouping connective inner k), List.mem_filter.mpr ⟨added, by simp⟩, rfl⟩)

namespace Dialect

variable {d : Dialect} {store : Store} {written : Ref → Except Error Conditions}

def fragmentIn (d : Dialect) (store : Store) (c : Clause) : Except Error Entries :=
  d.clauseFragment (fun ref => d.conditions store (store.get ref)) c

theorem bucketFragment_part {b : Builder} {parts : Conditions}
    (h : d.bucketFragments written b = .ok parts) (k : Bucket) :
    d.bucketFragment written (b.bucket k) = .ok (parts.part k) := by
  simp only [bucketFragments, bind_eq_ok, pure_eq_ok] at h
  obtain ⟨query, hq, filter, hf, postFilter, hp, rfl⟩ := h
  cases k <;> assumption

theorem part_eq_nil {b : Builder} {parts : Conditions}
    (h : d.bucketFragments written b = .ok parts) (k : Bucket) :
    parts.part k = [] ↔ b.bucket k = [] :=
  d.bucketFragment_eq_nil written (bucketFragment_part h k)

/-- Every clause of a bucket that is written is gathered in its fragment. -/
theorem gathers_of_mem {b : Builder} {parts : Conditions}
    (h : d.bucketFragments written b = .ok parts) {k : Bucket} {c : Clause} (mem : c ∈ b.bucket k) :
    ∃ f, d.clauseFragment written c = .ok f ∧ Gathers (parts.part k) f := by
  obtain ⟨chain, hc, shape⟩ := (d.bucketFragment_eq_ok written).mp (bucketFragment_part h k)
  obtain ⟨part, hp, inChain⟩ := mem_of_mapM hc mem
  obtain ⟨f, hf, paired⟩ := bind_eq_ok.mp hp
  obtain rfl := pure_eq_ok.mp paired
  exact ⟨f, hf, shape ▸ gathers_joining inChain⟩

section Places

variable {inner : Conditions} {b : Builder} {k : Bucket} {options part f : Entries}

/-- The first bucket that is not empty is the one that every bucket in front of is empty. -/
theorem firstPart_eq (filled : ∀ k, inner.part k = [] ↔ b.bucket k = []) (leads : b.Leads k)
    (some : inner.part k ≠ []) : inner.firstPart = inner.part k := by
  have query := filled .query
  have filter := filled .filter
  simp only [Conditions.part, Builder.bucket] at query filter
  cases k with
  | query => simp_all [Conditions.firstPart, Conditions.part]
  | filter => simp_all [Conditions.firstPart, Conditions.part, Builder.Leads]
  | postFilter => simp_all [Conditions.firstPart, Conditions.part, Builder.Leads]

theorem occurs_group {name : Value} (h : group inner name options = .ok f)
    (filled : ∀ k, inner.part k = [] ↔ b.bucket k = [])
    (takes : partOf name = .ok (some k) ∨ partOf name = .ok none ∧ b.Leads k)
    (gathered : Gathers (inner.part k) part) : (Value.map part).Occurs (.map f) := by
  simp only [group, bind_eq_ok, lift_eq_ok] at h
  obtain ⟨named, hn, h⟩ := h
  have some := gathered.ne_nil
  rcases takes with asked | ⟨asked, leads⟩ <;> cases hn.symm.trans asked
  · simp only [List.isEmpty_iff, some, if_false, lift_eq_ok] at h
    exact gathered.withOptions h
  · simp only [firstPart_eq filled leads some, List.isEmpty_iff, some, if_false, lift_eq_ok] at h
    exact gathered.withOptions h

/-- Of the query and the filter, the one that is not empty stands for both. -/
theorem orMatchAll_part (before : k ≠ .postFilter) (one : inner.query = [] ∨ inner.filter = [])
    (some : inner.part k ≠ []) : orMatchAll inner.query inner.filter = inner.part k := by
  cases k with
  | query => exact if_pos (by simpa [Conditions.part] using some)
  | filter =>
    have filter : inner.filter ≠ [] := some
    simp [orMatchAll, one.resolve_right filter, filter, Conditions.part]
  | postFilter => exact absurd rfl before

theorem occurs_queryWithFilter {v : Value} (before : k ≠ .postFilter) (some : inner.part k ≠ [])
    (inside : v.Occurs (.map (inner.part k))) :
    v.Occurs (.map (queryWithFilter inner.query inner.filter)) := by
  unfold queryWithFilter
  split
  · cases k with
    | query => exact .of_single (.entry List.mem_cons_self (.item List.mem_cons_self inside))
    | filter =>
      exact .of_single (.entry (List.mem_cons_of_mem _ List.mem_cons_self)
        (.item List.mem_cons_self inside))
    | postFilter => exact absurd rfl before
  · rename_i one
    rwa [orMatchAll_part before (Engine.not_both one) some]

theorem occurs_nestedDocument {column : Value} {negated : Bool}
    (h : nestedDocument column inner options negated = .ok f)
    (gathered : Gathers (inner.part k) part) : (Value.map part).Occurs (.map f) := by
  simp only [nestedDocument, unless_eq_ok, bind_eq_ok, lift_eq_ok, pure_eq_ok] at h
  obtain ⟨noPostFilter, fragment, written, rfl⟩ := h
  have before : k ≠ .postFilter := by
    rintro rfl
    exact gathered.ne_nil (by simpa [Conditions.part] using noPostFilter)
  refine occurs_negatedIf _ (occurs_joint .nested ?_ written)
  exact occurs_queryWithFilter before gathered.ne_nil gathered.occurs

theorem occurs_negation (h : negation inner = .ok f) (before : k ≠ .postFilter)
    (gathered : Gathers (inner.part k) part) : (Value.map part).Occurs (.map f) := by
  unfold negation at h
  split at h
  · cases h
  · rename_i one
    obtain rfl := Except.ok.inj h
    rw [orMatchAll_part before (Engine.not_both one) gathered.ne_nil]
    exact occurs_negatedIf true gathered.occurs

theorem occurs_relation {j : Joint} {kind : ClauseKind} {documentType : Value} {negated : Bool}
    (h : relation kind j.names.1 j.names.2 documentType inner options negated = .ok f)
    (before : k ≠ .postFilter) (gathered : Gathers (inner.part k) part) :
    (Value.map part).Occurs (.map f) := by
  simp only [relation, unless_eq_ok, bind_eq_ok, lift_eq_ok, pure_eq_ok] at h
  obtain ⟨one, fragment, written, rfl⟩ := h
  rw [orMatchAll_part before (Engine.not_both one) gathered.ne_nil] at written
  exact occurs_negatedIf _ (occurs_joint j gathered.occurs written)

/-- What is gathered in a bucket that a condition takes stands in the fragment of the condition. -/
theorem occurs_conditionFragment {negated : Bool} {c : Condition} {ref : Ref}
    (h : d.conditionFragment written options negated c = .ok f) (refers : c.query? = some ref)
    (found : written ref = .ok inner) (filled : ∀ k, inner.part k = [] ↔ b.bucket k = [])
    (takes : Place.Takes b k (.condition c)) (gathered : Gathers (inner.part k) part) :
    (Value.map part).Occurs (.map f) := by
  cases c <;> cases refers
  all_goals
    obtain ⟨other, read, h⟩ := bind_eq_ok.mp h
    cases found.symm.trans read
  case group => exact occurs_group h filled takes gathered
  case nestedDocument => exact occurs_nestedDocument h gathered
  case negation => exact occurs_negation h takes gathered
  case parent => exact occurs_relation (j := .parent) h takes gathered
  case child => exact occurs_relation (j := .child) h takes gathered

end Places

theorem gathers_of_holds {b : Builder} {k : Bucket} {c : Clause}
    (held : store.Holds Place.Takes b k c) {parts : Conditions}
    (h : d.conditions store b = .ok parts) :
    ∃ f, d.fragmentIn store c = .ok f ∧ Gathers (parts.part k) f := by
  induction held generalizing parts with
  | own mem => exact gathers_of_mem (conditions_unfold h) mem
  | inside mem refers takes _ ih =>
    obtain ⟨f, hf, outer⟩ := gathers_of_mem (conditions_unfold h) mem
    obtain ⟨inner, hi⟩ := written_of_clauseFragment hf refers
    obtain ⟨part, hp, gathered⟩ := ih hi
    exact ⟨part, hp, outer.trans (occurs_conditionFragment (clauseFragment_eq_ok.mp hf).2 refers hi
      (part_eq_nil (conditions_unfold hi)) takes gathered)⟩

/-- Every clause inside a builder that is written is written, in whatever bucket it is. -/
theorem written_of_holds {taken : Builder → Bucket → Place → Prop} {b : Builder} {k : Bucket}
    {c : Clause} (held : store.Holds taken b k c) {parts : Conditions}
    (h : d.conditions store b = .ok parts) : ∃ f, d.fragmentIn store c = .ok f := by
  induction held generalizing parts with
  | own mem =>
    obtain ⟨f, hf, -⟩ := gathers_of_mem (conditions_unfold h) mem
    exact ⟨f, hf⟩
  | inside mem refers _ _ ih =>
    obtain ⟨f, hf, -⟩ := gathers_of_mem (conditions_unfold h) mem
    obtain ⟨inner, hi⟩ := written_of_clauseFragment hf refers
    exact ih hi

theorem fragmentIn_of_conflicts {c : Clause} {ref : Ref} {inner : Conditions}
    (refers : c.condition.query? = some ref) (supported : d.supports c.kind = true)
    (hi : d.conditions store (store.get ref) = .ok inner)
    (conflict : c.condition.Conflicts (store.get ref)) :
    ∃ fault, d.fragmentIn store c = .error (.invalidQuery fault) := by
  have filled := part_eq_nil (conditions_unfold hi)
  have query : inner.query = [] ↔ (store.get ref).wheres = [] := filled .query
  have filter : inner.filter = [] ↔ (store.get ref).filters = [] := filled .filter
  have postFilter : inner.postFilter = [] ↔ (store.get ref).postFilters = [] := filled .postFilter
  obtain ⟨connective, negated, options, condition⟩ := c
  simp only [fragmentIn, clauseFragment, supported, if_true]
  cases condition <;> cases refers
  all_goals simp only [conditionFragment, hi]
  case group => exact absurd conflict id
  case nestedDocument column =>
    refine ⟨.nestedPostFilter column, if_pos ?_⟩
    simpa [postFilter, Condition.Conflicts] using conflict
  case negation =>
    refine ⟨.negationContexts, if_pos ?_⟩
    simpa [query, filter, Condition.Conflicts] using conflict
  case parent =>
    refine ⟨.relationContexts .parent, if_pos ?_⟩
    simpa [query, filter, Condition.Conflicts] using conflict
  case child =>
    refine ⟨.relationContexts .child, if_pos ?_⟩
    simpa [query, filter, Condition.Conflicts] using conflict

theorem not_conflicts_of_written {c : Clause} {f : Entries} {ref : Ref}
    (h : d.fragmentIn store c = .ok f) (refers : c.condition.query? = some ref) :
    ¬c.condition.Conflicts (store.get ref) := by
  intro conflict
  obtain ⟨inner, hi⟩ := written_of_clauseFragment h refers
  have supported := (clauseFragment_eq_ok.mp h).1
  obtain ⟨fault, refused⟩ := fragmentIn_of_conflicts refers supported hi conflict
  cases h.symm.trans refused

end Dialect

end DocumentSearch
