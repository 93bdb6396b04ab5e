import DocumentSearch.Proofs.Matching.Translation

/-!
# Searches match what builders ask

The query of a search together with its filter, and its filter after the aggregations, match the
documents that the buckets of the builder ask for.
-/
namespace DocumentSearch

open Fragment Outcome

namespace Dialect

/-- The query of a search, with its filter if there is one. -/
def queryOf (parts : Conditions) : Entries :=
  if parts.filter.isEmpty then parts.query else attachFilter parts.query parts.filter

theorem find?_limitEntry (limit : Option Number) {key : String} (other : key ≠ "size") :
    Table.find? (limitEntry limit) key = none := by
  cases limit <;> simp [limitEntry, Table.find?_cons, Ne.symm other]

theorem searchBody_eq_ok {d : Dialect} {store : Store} {b : Builder} {body : Entries} :
    d.searchBody store b = .ok body ↔ ∃ parts aggregations orders,
      d.conditions store b = .ok parts ∧
      (if b.aggregations.isEmpty then .ok [] else d.aggregations store b) = .ok aggregations ∧
      b.orders.mapM Order.fragment = .ok orders ∧
      body = (("_source", sourceOf b.columns) ::
        (entryIf (!(queryOf parts).isEmpty) "query" (.map (queryOf parts)) ++
          entryIf (!parts.postFilter.isEmpty) "post_filter" (.map parts.postFilter) ++
          entryIf (!b.aggregations.isEmpty) "aggregations" (.map aggregations) ++
          entryIf (!b.orders.isEmpty) "sort" (.list (orders.map Value.map)) ++
          entryIf (b.offset ≠ 0) "from" (.ofNat b.offset) ++ limitEntry b.limit) : Entries) := by
  simp only [searchBody, bind_eq_ok]
  constructor
  · rintro ⟨parts, hp, h⟩
    split at h
    all_goals
      rename_i aggregated
      simp only [bind_eq_ok, pure_eq_ok] at h
      obtain ⟨aggregations, ha, orders, ho, rfl⟩ := h
      refine ⟨parts, aggregations, orders, hp, ?_, ho, rfl⟩
    · rwa [if_pos aggregated]
    · rwa [if_neg aggregated]
  · rintro ⟨parts, aggregations, orders, hp, ha, ho, rfl⟩
    refine ⟨parts, hp, ?_⟩
    split at ha
    all_goals
      rename_i aggregated
      simp only [aggregated, if_true, Bool.false_eq_true, if_false]
      exact bind_eq_ok.mpr ⟨aggregations, ha, bind_eq_ok.mpr ⟨orders, ho, rfl⟩⟩

theorem searchBody_parts {d : Dialect} {store : Store} {b : Builder} {body : Entries}
    (h : d.searchBody store b = .ok body) :
    ∃ parts, d.conditions store b = .ok parts ∧
      body.find? "query" =
        (if (queryOf parts).isEmpty then none else some (.map (queryOf parts))) ∧
      body.find? "post_filter" =
        if parts.postFilter.isEmpty then none else some (.map parts.postFilter) := by
  obtain ⟨parts, aggregations, orders, hp, -, -, rfl⟩ := searchBody_eq_ok.mp h
  refine ⟨parts, hp, ?_, ?_⟩
  · cases hq : (queryOf parts).isEmpty <;>
      simp [Table.find?_cons, Table.find?_append, find?_entryIf, find?_limitEntry]
  · cases hq : parts.postFilter.isEmpty <;>
      simp [Table.find?_cons, Table.find?_append, find?_entryIf, find?_limitEntry]

end Dialect

namespace Engine

variable {Doc : Type} (e : Engine Doc)

/-- Whether a document is matched by what stands under a key of a search; every document is if
nothing does. -/
def partAccepts (body : Entries) (key : String) (doc : Doc) : Bool :=
  ((body.find? key).map (e.acceptsValue · doc)).getD true

variable {e} {d : Dialect}

theorem partAccepts_eq {body fragment : Entries} {key : String} {doc : Doc} {sense : Bool}
    (found : body.find? key = if fragment.isEmpty then none else some (.map fragment))
    (empty : fragment = [] → sense = true) (filled : fragment ≠ [] → e.accepts fragment doc = sense) :
    e.partAccepts body key doc = sense := by
  by_cases none : fragment = []
  · simp [partAccepts, found, none, empty none]
  · simp [partAccepts, found, none, filled none]

theorem Expresses.partAccepts {body fragment : Entries} {key : String}
    {asked : Option (Doc → Bool)} (expresses : e.Expresses fragment asked)
    (found : body.find? key = if fragment.isEmpty then none else some (.map fragment)) (doc : Doc) :
    e.partAccepts body key doc = Senses.meets asked doc := by
  refine partAccepts_eq found ?_ (expresses.accepts doc)
  rintro rfl
  exact expresses.meets_of_nil doc

theorem Agrees.partAccepts_query {body : Entries} {parts : Conditions} {s : Senses Doc}
    (agree : e.Agrees parts s)
    (found : body.find? "query" = if (Dialect.queryOf parts).isEmpty then none
      else some (.map (Dialect.queryOf parts))) (doc : Doc) :
    e.partAccepts body "query" doc = s.matched doc := by
  by_cases none : parts.filter = []
  · have silent : e.Expresses [] s.filter := none ▸ agree.filter
    simp only [Dialect.queryOf, none, List.isEmpty_nil, if_true] at found
    rw [agree.query.partAccepts found, Senses.matched, silent.meets_of_nil, Bool.and_true]
  · have attached : Dialect.queryOf parts = Dialect.attachFilter parts.query parts.filter := by
      simp [Dialect.queryOf, none]
    refine partAccepts_eq found (fun empty => ?_) fun _ => ?_
    · rw [attached] at empty
      exact absurd empty (Table.insert_ne_nil _ _ _)
    · rw [attached, accepts_attachFilter agree.query agree.filter none]
      rfl

/-- Every search that can be written for a builder matches what the builder asks: its query the
clauses together with the filters, its filter after the aggregations the post filters. -/
theorem searchRequest_accepts {store : Store} {b : Builder} {request : Dialect.SearchRequest}
    (h : d.searchRequest store b = .ok request) (doc : Doc) :
    let asked := fun ref => e.senses d store (store.get ref)
    e.partAccepts request.body "query" doc =
        (Senses.meets (e.bucketSense d asked b.wheres) doc &&
          Senses.meets (e.bucketSense d asked b.filters) doc) ∧
      e.partAccepts request.body "post_filter" doc =
        Senses.meets (e.bucketSense d asked b.postFilters) doc := by
  simp only [Dialect.searchRequest, bind_eq_ok, pure_eq_ok] at h
  obtain ⟨body, hb, index, -, rfl⟩ := h
  obtain ⟨parts, hp, query, postFilter⟩ := Dialect.searchBody_parts hb
  have agree : e.Agrees parts (e.senses d store b) := agrees_conditions hp
  rw [senses_eq hp] at agree
  exact ⟨agree.partAccepts_query query doc, agree.postFilter.partAccepts postFilter doc⟩

/-- Documents that are single tags, where a term names the tag that it matches. -/
def tags : Engine String where
  leaf
    | [(_, .map [(_, .str tag)])], doc => tag = doc
    | _, _ => false
  joined _ _ inner := inner

end Engine

def Clause.tagged (connective : Connective) (tag : String) : Clause :=
  ⟨connective, .bool false, [], .basic "tag" .equal (.str tag)⟩

def Builder.grouped : Builder :=
  { Builder.blank "id" with
    index := "posts"
    wheres := [⟨.conjunction, .bool false, [], .group ⟨0⟩ .null⟩]
    filters := [⟨.conjunction, .bool false, [], .negation ⟨1⟩⟩] }

def Store.grouped : Store :=
  ⟨[{ Builder.blank "id" with wheres := [.tagged .conjunction "a", .tagged .disjunction "b"] },
    { Builder.blank "id" with wheres := [.tagged .conjunction "b"] }]⟩

theorem Engine.searchRequest_accepts_grouped :
    ∃ request, Dialect.standard.searchRequest .grouped .grouped = .ok request ∧
      Engine.tags.partAccepts request.body "query" "a" = true ∧
      Engine.tags.partAccepts request.body "query" "b" = false := by
  obtain ⟨request, written⟩ : ∃ request,
    Dialect.standard.searchRequest .grouped .grouped = .ok request := ⟨_, rfl⟩
  refine ⟨request, written, ?_, ?_⟩
  · exact (searchRequest_accepts written "a").1
  · exact (searchRequest_accepts written "b").1

end DocumentSearch
