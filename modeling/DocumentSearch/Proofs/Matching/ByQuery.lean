import DocumentSearch.Proofs.Matching.Search
import DocumentSearch.Request.Write

/-!
# Writes by query

A deletion or an update by query goes to the documents that the query of the search matches. The
post filters of a builder narrow its search, but not its writes.
-/
namespace DocumentSearch

open Fragment Outcome

namespace Dialect

variable {d : Dialect} {store : Store} {b other : Builder}

def queryIn (request : Entries) : Option Value :=
  ((request.find? "body").bind Value.map?).bind (Table.find? · "query")

def WritesByQuery (d : Dialect) (store : Store) (b : Builder) (request : Entries) : Prop :=
  d.deleteByQueryRequest store b = .ok request ∨
    ∃ script params, d.updateByQueryRequest store b script params = .ok request

/-- The query of a write: that of the search, or else one that every document matches. -/
def writeQuery (parts : Conditions) : Entries := orMatchAll (queryOf parts) []

theorem byQueryRequest_of_search {search : SearchRequest}
    (h : d.searchRequest store b = .ok search) (more : Entries) :
    ∃ request, d.byQueryRequest store b more = .ok request :=
  ⟨_, by rw [byQueryRequest, h]; rfl⟩

theorem queryIn_byQueryRequest {more request : Entries}
    (h : d.byQueryRequest store b more = .ok request) :
    ∃ parts, d.conditions store b = .ok parts ∧ queryIn request = some (.map (writeQuery parts)) := by
  simp only [byQueryRequest, searchRequest, bind_eq_ok, pure_eq_ok] at h
  obtain ⟨search, ⟨body, hb, index, -, rfl⟩, rfl⟩ := h
  obtain ⟨parts, hp, query, -⟩ := searchBody_parts hb
  refine ⟨parts, hp, ?_⟩
  by_cases none : queryOf parts = []
  · simp [queryIn, Table.find?_cons, Value.map?, Value.seen, query, none, writeQuery, orMatchAll]
  · simp [queryIn, Table.find?_cons, Value.map?, Value.seen, query, none, writeQuery, orMatchAll]

theorem WritesByQuery.queryIn {request : Entries} (h : d.WritesByQuery store b request) :
    ∃ parts, d.conditions store b = .ok parts ∧
      Dialect.queryIn request = some (.map (writeQuery parts)) := by
  rcases h with h | ⟨script, params, h⟩
  · exact queryIn_byQueryRequest h
  · exact queryIn_byQueryRequest h

theorem writeQuery_congr {parts others : Conditions} (wheres : other.wheres = b.wheres)
    (filters : other.filters = b.filters) (hp : d.conditions store b = .ok parts)
    (ho : d.conditions store other = .ok others) : writeQuery others = writeQuery parts := by
  obtain ⟨sub, within⟩ : ∃ sub, ∀ b, d.conditions store b = d.bucketFragments sub b := by
    unfold conditions
    cases store.size with
    | zero => exact ⟨_, fun _ => rfl⟩
    | succ depth => exact ⟨_, fun _ => rfl⟩
  simp only [within, bucketFragments, bind_eq_ok, pure_eq_ok] at hp ho
  obtain ⟨query, hq, filter, hf, -, -, rfl⟩ := hp
  obtain ⟨query', hq', filter', hf', -, -, rfl⟩ := ho
  rw [wheres, hq] at hq'
  rw [filters, hf] at hf'
  obtain rfl := Except.ok.inj hq'
  obtain rfl := Except.ok.inj hf'
  rfl

theorem queryOf_cases {parts : Conditions} (form : IsBucket parts.query) :
    queryOf parts = [] ∧ parts.query = [] ∧ parts.filter = [] ∨
      ∃ body, queryOf parts = [(.str "bool", body)] := by
  obtain ⟨query, filter, postFilter⟩ := parts
  unfold queryOf
  split
  · rename_i none
    rw [List.isEmpty_iff] at none
    cases form with
    | empty => exact .inl ⟨rfl, rfl, none⟩
    | all => exact .inr ⟨_, rfl⟩
    | any => exact .inr ⟨_, rfl⟩
  · cases form with
    | empty => exact .inr ⟨_, rfl⟩
    | all => exact .inr ⟨_, rfl⟩
    | any => exact .inr ⟨_, rfl⟩

theorem writeQuery_eq_matchAll {parts : Conditions} (h : d.conditions store b = .ok parts) :
    writeQuery parts = matchAll ↔ b.wheres = [] ∧ b.filters = [] := by
  have h := conditions_unfold h
  simp only [bucketFragments, bind_eq_ok, pure_eq_ok] at h
  obtain ⟨query, hq, filter, hf, postFilter, -, rfl⟩ := h
  rw [← bucketFragment_eq_nil _ _ hq, ← bucketFragment_eq_nil _ _ hf]
  have form : IsBucket query := by
    obtain ⟨joined, -, rfl⟩ := (bucketFragment_eq_ok _ _).mp hq
    exact isBucket_joining joined
  rcases @queryOf_cases ⟨query, filter, postFilter⟩ form with ⟨none, rfl, rfl⟩ | ⟨body, some⟩
  · simp [writeQuery, none, orMatchAll]
  · have filled : ¬(query = [] ∧ filter = []) := by
      rintro ⟨rfl, rfl⟩
      simp [queryOf] at some
    simp [writeQuery, some, orMatchAll, matchAll, filled]

end Dialect

def Builder.postFiltered : Builder :=
  { Builder.blank "id" with index := "posts", postFilters := [.tagged .conjunction "a"] }

namespace Engine

open Dialect

variable {d : Dialect} {store : Store} {b : Builder}

/-- A write goes to what the query of the search matches, an absent one matching everything. -/
theorem accepts_writeQuery {Doc : Type} (e : Engine Doc) {body : Entries} {parts : Conditions}
    (found : body.find? "query" =
      if (queryOf parts).isEmpty then none else some (.map (queryOf parts))) (doc : Doc) :
    e.accepts (writeQuery parts) doc = e.partAccepts body "query" doc := by
  by_cases none : queryOf parts = []
  · simp [writeQuery, orMatchAll, partAccepts, found, none]
  · simp [writeQuery, orMatchAll, partAccepts, found, none]

theorem partAccepts_of_no_postFilters {Doc : Type} (e : Engine Doc) {body : Entries}
    {parts : Conditions} (silent : b.postFilters = []) (hp : d.conditions store b = .ok parts)
    (found : body.find? "post_filter" =
      if parts.postFilter.isEmpty then none else some (.map parts.postFilter)) (doc : Doc) :
    e.partAccepts body "post_filter" doc = true := by
  have h := conditions_unfold hp
  simp only [bucketFragments, bind_eq_ok, pure_eq_ok] at h
  obtain ⟨query, -, filter, -, postFilter, hf, rfl⟩ := h
  simp [partAccepts, found, (bucketFragment_eq_nil _ _ hf).mpr silent]

/-- The documents that are deleted or updated are those that the query of the search matches. They
are the ones that the whole search finds if and only if the post filter holds of them, as it does
where there is none. -/
theorem writesByQuery_accepts {search : SearchRequest} (h : d.searchRequest store b = .ok search) :
    (∃ request, d.deleteByQueryRequest store b = .ok request) ∧
      (∀ script params, ∃ request, d.updateByQueryRequest store b script params = .ok request) ∧
      ∃ query,
        (∀ (other : Builder) (request : Entries), other.wheres = b.wheres →
          other.filters = b.filters → d.WritesByQuery store other request →
          queryIn request = some (.map query)) ∧
        (query = matchAll ↔ b.wheres = [] ∧ b.filters = []) ∧
        ∀ {Doc : Type} (e : Engine Doc) (doc : Doc),
          let found := e.partAccepts search.body "query" doc
          let kept := e.partAccepts search.body "post_filter" doc
          e.accepts query doc = found ∧
            (e.accepts query doc = (found && kept) ↔ (found = true → kept = true)) ∧
            (b.postFilters = [] → e.accepts query doc = (found && kept)) := by
  refine ⟨byQueryRequest_of_search h [], fun _ _ => byQueryRequest_of_search h _, ?_⟩
  simp only [searchRequest, bind_eq_ok, pure_eq_ok] at h
  obtain ⟨body, hb, index, -, rfl⟩ := h
  obtain ⟨parts, hp, found, kept⟩ := searchBody_parts hb
  refine ⟨writeQuery parts, fun other request wheres filters written => ?_,
    writeQuery_eq_matchAll hp, fun e doc => ?_⟩
  · obtain ⟨others, ho, hq⟩ := written.queryIn
    rw [hq, writeQuery_congr wheres filters hp ho]
  · rw [e.accepts_writeQuery found doc]
    refine ⟨rfl, ?_, fun silent => ?_⟩
    · cases e.partAccepts body "query" doc <;> simp
    · simp only [e.partAccepts_of_no_postFilters silent hp kept doc, Bool.and_true]

/-- A deletion with a post filter alone deletes a document that the search does not find. -/
theorem writesByQuery_accepts_every :
    ∃ search request query, Dialect.standard.searchRequest .empty .postFiltered = .ok search ∧
      Dialect.standard.deleteByQueryRequest .empty .postFiltered = .ok request ∧
      queryIn request = some (.map query) ∧ tags.accepts query "b" = true ∧
      (tags.partAccepts search.body "query" "b" &&
        tags.partAccepts search.body "post_filter" "b") = false := by
  have written : Dialect.standard.searchRequest .empty .postFiltered =
      .ok ⟨"posts", [("_source", .bool true),
        ("post_filter", .map (allOf [[("term", .map [("tag", "a")])]]))]⟩ := rfl
  obtain ⟨⟨request, hr⟩, -, query, same, -, accepts⟩ := writesByQuery_accepts written
  refine ⟨_, request, query, written, hr, same _ request rfl rfl (.inl hr), ?_, rfl⟩
  exact (accepts tags "b").1

end Engine

end DocumentSearch
