import DocumentSearch.Edit
import DocumentSearch.Proofs.Matching.Blame
import DocumentSearch.Proofs.Matching.Kept

/-!
# Clauses stand in the search

A search is made of the three buckets of its builder and of the filters among its aggregations.
Every clause in a bucket that is taken, of the builder itself or of one at any depth inside it,
stands in the search.
-/
namespace DocumentSearch

open Fragment Outcome

namespace Dialect

variable {d : Dialect} {store : Store}

section Aggregations

variable {inside : Builder → Except Error Entries} {b : Builder} {a : Aggregation}
  {entries : Entries}

theorem find?_aggregations {later : List Aggregation} {start : Entries}
    (h : later.foldlM (fun written a => do
      return Table.insert written a.key (.map (← d.aggregationWith store inside a))) start =
        .ok entries) (other : ∀ x ∈ later, x.key ≠ a.key) :
    Table.find? entries a.key = Table.find? start a.key := by
  induction later generalizing start with
  | nil => rw [pure_eq_ok.mp h]
  | cons x later ih =>
    obtain ⟨first, rest⟩ := List.forall_mem_cons.mp other
    simp only [List.foldlM_cons, bind_eq_ok, pure_eq_ok] at h
    obtain ⟨_, ⟨f, -, rfl⟩, h⟩ := h
    rw [ih h rest, Table.find?_insert_of_ne _ _ (by simpa using Ne.symm first)]

theorem find?_of_reports (h : d.aggregationsWith store inside b = .ok entries)
    (stays : b.Reports a) :
    ∃ f, d.aggregationWith store inside a = .ok f ∧ Table.find? entries a.key = some (.map f) := by
  obtain ⟨before, after, split, other⟩ := stays
  simp only [aggregationsWith, split, List.foldlM_append, List.foldlM_cons, bind_eq_ok,
    pure_eq_ok] at h
  obtain ⟨start, -, _, ⟨f, hf, rfl⟩, h⟩ := h
  exact ⟨f, hf, by rw [find?_aggregations h other, Table.find?_insert_self]⟩

theorem ne_nil_of_reports (stays : b.Reports a) : b.aggregations ≠ [] := by
  obtain ⟨before, after, split, -⟩ := stays
  simp [split]

theorem aggregationWith_filter {ref : Ref} (h : d.aggregationWith store inside a = .ok entries)
    (kind : AggregationKind.ofType? a.type = some .filter) (args : a.args = .builder ref) :
    ∃ inner, d.conditions store (store.get ref) = .ok inner ∧
      Table.find? entries "filter" = some (.map (queryWithFilter inner.query inner.filter)) := by
  simp only [aggregationWith, Aggregation.fragment, kind, args, bind_eq_ok, pure_eq_ok] at h
  obtain ⟨_, ⟨inner, hi, rfl⟩, h⟩ := h
  refine ⟨inner, hi, ?_⟩
  split at h
  · split at h
    · simp only [bind_eq_ok, pure_eq_ok] at h
      obtain ⟨_, -, rfl⟩ := h
      rw [Table.find?_insert_of_ne _ _ (by simp)]
      rfl
    · exact pure_eq_ok.mp h ▸ rfl
  · exact pure_eq_ok.mp h ▸ rfl

theorem aggregationWith_inside {ref : Ref} (h : d.aggregationWith store inside a = .ok entries)
    (sub : a.sub = some ref) (filled : (store.get ref).aggregations ≠ []) :
    ∃ inner, inside (store.get ref) = .ok inner ∧
      Table.find? entries "aggregations" = some (.map inner) := by
  have filled : a.hasSub store = true := by simpa [Aggregation.hasSub, sub] using filled
  simp only [aggregationWith, sub, filled, if_true, bind_eq_ok, pure_eq_ok] at h
  obtain ⟨_, -, inner, hi, rfl⟩ := h
  exact ⟨inner, hi, Table.find?_insert_self _ _ _⟩

theorem Filters.ne_nil {taken : Builder → Bucket → Place → Prop} {c : Clause}
    (held : store.Filters taken b c) : b.aggregations ≠ [] := by
  cases held with
  | own stays => exact ne_nil_of_reports stays
  | inside stays => exact ne_nil_of_reports stays

theorem aggregationsWithin_eq (depth : Nat) : ∃ inside,
    d.aggregationsWithin store depth b = d.aggregationsWith store inside b := by
  cases depth <;> exact ⟨_, rfl⟩

/-- The clauses of a filter aggregation are in a builder whose query and filter stand in the
aggregations. -/
theorem conditions_of_filters {taken : Builder → Bucket → Place → Prop} {c : Clause}
    (held : store.Filters taken b c) {depth : Nat}
    (h : d.aggregationsWithin store depth b = .ok entries) :
    ∃ ref k inner, taken (store.get ref) k .aggregation ∧
      store.Holds taken (store.get ref) k c ∧ d.conditions store (store.get ref) = .ok inner ∧
      (Value.map (queryWithFilter inner.query inner.filter)).Occurs (.map entries) := by
  induction held generalizing depth entries with
  | @own _ _ ref k _ stays kind args takes held =>
    obtain ⟨inside, eq⟩ := aggregationsWithin_eq depth
    obtain ⟨outer, ho, found⟩ := find?_of_reports (eq ▸ h) stays
    obtain ⟨inner, hi, filter⟩ := aggregationWith_filter ho kind args
    exact ⟨ref, k, inner, takes, held, hi, .of_find? found (.of_find? filter .here)⟩
  | inside stays sub held ih =>
    cases depth with
    | zero =>
      obtain ⟨outer, ho, -⟩ := find?_of_reports h stays
      obtain ⟨_, failed, -⟩ := aggregationWith_inside ho sub (Filters.ne_nil held)
      cases failed
    | succ depth =>
      obtain ⟨outer, ho, found⟩ := find?_of_reports h stays
      obtain ⟨deeper, hd, under⟩ := aggregationWith_inside ho sub (Filters.ne_nil held)
      obtain ⟨ref, k, inner, takes, holds, hi, occurs⟩ := ih hd
      exact ⟨ref, k, inner, takes, holds, hi, .of_find? found (.of_find? under occurs)⟩

end Aggregations

section Searches

variable {b : Builder} {body : Entries} {taken : Builder → Bucket → Place → Prop} {c : Clause}

theorem searchBody_aggregations (h : d.searchBody store b = .ok body)
    (filled : b.aggregations ≠ []) :
    ∃ entries, d.aggregations store b = .ok entries ∧
      body.find? "aggregations" = some (.map entries) := by
  have some : b.aggregations.isEmpty = false := by simpa using filled
  simp only [searchBody, some, bind_eq_ok, pure_eq_ok, Bool.false_eq_true, if_false] at h
  obtain ⟨parts, -, entries, ha, orders, -, rfl⟩ := h
  refine ⟨entries, ha, ?_⟩
  simp [Table.find?_cons, Table.find?_append, find?_entryIf]

theorem occurs_searchBody (h : d.searchBody store b = .ok body) {parts : Conditions}
    (hp : d.conditions store b = .ok parts) {k : Bucket} {part : Entries}
    (gathered : Gathers (parts.part k) part) : (Value.map part).Occurs (.map body) := by
  obtain ⟨other, ho, query, postFilter⟩ := searchBody_parts h
  cases hp.symm.trans ho
  cases k with
  | query =>
    have inQuery : Gathers (queryOf parts) part := by
      unfold queryOf
      split
      · exact gathered
      · exact gathers_attachFilter gathered
    rw [if_neg (by simpa using inQuery.ne_nil)] at query
    exact .of_find? query inQuery.occurs
  | filter =>
    have some : parts.filter ≠ [] := gathered.ne_nil
    have attached : queryOf parts = attachFilter parts.query parts.filter :=
      if_neg (by simpa using some)
    rw [attached, if_neg (by simpa using attachFilter_ne_nil _ _)] at query
    exact .of_find? query (gathered.occurs.trans (occurs_attachFilter _ _))
  | postFilter =>
    have some : parts.postFilter ≠ [] := gathered.ne_nil
    rw [if_neg (by simpa using some)] at postFilter
    exact .of_find? postFilter gathered.occurs

theorem written_of_covers (h : d.searchBody store b = .ok body)
    (covered : store.Covers taken b c) : ∃ f, d.fragmentIn store c = .ok f := by
  rcases covered with ⟨k, held⟩ | held
  · obtain ⟨parts, hp, -⟩ := searchBody_parts h
    exact written_of_holds held hp
  · obtain ⟨entries, ha, -⟩ := searchBody_aggregations h (Filters.ne_nil held)
    obtain ⟨ref, k, inner, -, holds, hi, -⟩ := conditions_of_filters held ha
    exact written_of_holds holds hi

theorem occurs_of_covers (h : d.searchBody store b = .ok body)
    (covered : store.Covers Place.Takes b c) :
    ∃ f, d.fragmentIn store c = .ok f ∧ (Value.map f).Occurs (.map body) := by
  rcases covered with ⟨k, held⟩ | held
  · obtain ⟨parts, hp, -⟩ := searchBody_parts h
    obtain ⟨f, hf, gathered⟩ := gathers_of_holds held hp
    exact ⟨f, hf, occurs_searchBody h hp gathered⟩
  · obtain ⟨entries, ha, found⟩ := searchBody_aggregations h (Filters.ne_nil held)
    obtain ⟨ref, k, inner, takes, holds, hi, filter⟩ := conditions_of_filters held ha
    obtain ⟨f, hf, gathered⟩ := gathers_of_holds holds hi
    have occurs := occurs_queryWithFilter takes gathered.ne_nil gathered.occurs
    exact ⟨f, hf, .of_find? found (occurs.trans filter)⟩

end Searches

/-- Every clause in a bucket that is taken stands in the search, at whatever depth of clauses and
aggregations it is. A builder that a call takes as a group has its query and its filter taken. A
clause that has no place for all that the builder inside it asks is refused because of its query,
and with it every search that it is in. -/
theorem searchRequest_keeps {b : Builder} :
    (∀ request, d.searchRequest store b = .ok request →
      ∀ c, store.Covers Place.Takes b c →
        ∃ f, d.fragmentIn store c = .ok f ∧ (Value.map f).Occurs (.map request.toEntries)) ∧
    (∀ criterion inner self b', criterion.Joins inner →
      (Edit.criterion criterion).apply store self b = (.ok (), b') →
      ∀ k c, k ≠ .postFilter → store.Holds Place.Takes (store.get inner) k c →
        store.Covers Place.Takes b' c) ∧
    ∀ c ref, c.condition.query? = some ref → c.condition.Conflicts (store.get ref) →
      (∀ inner, d.supports c.kind = true → d.conditions store (store.get ref) = .ok inner →
        ∃ fault, d.fragmentIn store c = .error (.invalidQuery fault)) ∧
      (store.Covers (fun _ _ _ => True) b c →
        ∃ e, d.searchRequest store b = .error e ∧ e.OfQuery) := by
  refine ⟨fun request h c covered => ?_, fun criterion inner self b' joins h k c before held => ?_,
    fun c ref refers conflict => ⟨fun inner supported hi =>
      fragmentIn_of_conflicts refers supported hi conflict, fun covered => ?_⟩⟩
  · simp only [searchRequest, bind_eq_ok, pure_eq_ok] at h
    obtain ⟨body, hb, index, -, rfl⟩ := h
    obtain ⟨f, hf, occurs⟩ := occurs_of_covers hb covered
    exact ⟨f, hf, .entry (List.mem_cons_of_mem _ List.mem_cons_self) occurs⟩
  · rw [Edit.apply] at h
    cases made : criterion.clauses store self with
    | error e => simp [made, Edit.settle, bind, Except.bind] at h
    | ok clauses =>
      obtain ⟨connective, rfl⟩ := criterion.clauses_of_joins joins made
      obtain rfl : b.place (store.groupings connective inner) = b' := by
        simpa [made, Edit.settle, bind, Except.bind, pure, Except.pure] using h
      exact .inl ⟨k, store.holds_place_groupings connective b before held⟩
  · cases outcome : d.searchRequest store b with
    | error e => exact ⟨e, rfl, d.writes_searchRequest store b e outcome⟩
    | ok request =>
      simp only [searchRequest, bind_eq_ok, pure_eq_ok] at outcome
      obtain ⟨body, hb, -⟩ := outcome
      obtain ⟨f, hf⟩ := written_of_covers hb covered
      exact absurd conflict (not_conflicts_of_written hf refers)

end Dialect

/-- A filter aggregation over the tags that are not b, and a group of the tags a. -/
def Builder.layered : Builder :=
  { Builder.blank "id" with
    index := "posts"
    wheres := [⟨.conjunction, .bool false, [], .group ⟨0⟩ (.str "filter")⟩]
    aggregations := [⟨"rest", "filter", .builder ⟨1⟩, none⟩] }

def Store.layered : Store :=
  ⟨[{ Builder.blank "id" with filters := [.tagged .conjunction "a"] },
    { Builder.blank "id" with
      filters := [⟨.conjunction, .bool false, [], .negation ⟨2⟩⟩] },
    { Builder.blank "id" with wheres := [.tagged .conjunction "b"] }]⟩

def Store.halved : Store :=
  ⟨[{ Builder.blank "id" with
      wheres := [.tagged .conjunction "a"]
      filters := [.tagged .conjunction "b"] }]⟩

/-- The tags that are not b stand in the search, both parts of a group are in a search for it, and
a negation of both is refused. -/
theorem Dialect.searchRequest_keeps_layered :
    (∃ request f, Dialect.standard.searchRequest .layered .layered = .ok request ∧
      Dialect.standard.fragmentIn .layered (.tagged .conjunction "b") = .ok f ∧
      (Value.map f).Occurs (.map request.toEntries)) ∧
    (∃ b', (Edit.criterion (.group (.builder ⟨0⟩) "and")).apply .halved ⟨1⟩ (.blank "id") =
        (.ok (), b') ∧ Store.halved.Covers Place.Takes b' (.tagged .conjunction "a") ∧
      Store.halved.Covers Place.Takes b' (.tagged .conjunction "b")) ∧
    ∃ e, Dialect.standard.searchRequest .halved
      { Builder.blank "id" with wheres := [⟨.conjunction, .bool false, [], .negation ⟨0⟩⟩] } =
        .error e ∧ e.OfQuery := by
  refine ⟨?_, ?_, ?_⟩
  · obtain ⟨request, written⟩ : ∃ request,
      Dialect.standard.searchRequest .layered .layered = .ok request := ⟨_, rfl⟩
    have covered : Store.layered.Covers Place.Takes .layered (.tagged .conjunction "b") :=
      .inr (.own ⟨[], [], rfl, nofun⟩ rfl rfl (k := .filter) nofun
        (.inside List.mem_cons_self rfl (j := .query) nofun (.own List.mem_cons_self)))
    obtain ⟨f, hf, occurs⟩ := searchRequest_keeps.1 request written _ covered
    exact ⟨request, f, written, hf, occurs⟩
  · have taken := (@searchRequest_keeps .standard .halved (.blank "id")).2.1
      (.group (.builder ⟨0⟩) "and") ⟨0⟩ ⟨1⟩ _ rfl rfl
    exact ⟨_, rfl, taken .query _ nofun (.own List.mem_cons_self),
      taken .filter _ nofun (.own List.mem_cons_self)⟩
  · have conflict : Condition.Conflicts (Store.halved.get ⟨0⟩) (.negation ⟨0⟩) := ⟨nofun, nofun⟩
    exact (searchRequest_keeps.2.2 _ ⟨0⟩ rfl conflict).2 (.inl ⟨.query, .own List.mem_cons_self⟩)

/-- A group without a name, which takes the query and leaves the filter behind. -/
def Builder.halved : Builder :=
  { Builder.blank "id" with
    index := "posts"
    wheres := [⟨.conjunction, .bool false, [], .group ⟨0⟩ .null⟩] }

/-- Not every clause of a builder inside another one stands in the search. -/
theorem Dialect.searchRequest_leaves :
    ∃ request, Dialect.standard.searchRequest .halved .halved = .ok request ∧
      ¬∀ c, Store.halved.Covers (fun _ _ _ => True) .halved c →
        ∃ f, Dialect.standard.fragmentIn .halved c = .ok f ∧
          (Value.map f).Occurs (.map request.toEntries) := by
  let query : Entries := allOf [allOf [[("term", .map [("tag", "a")])]]]
  refine ⟨⟨"posts", [("_source", .bool true), ("query", .map query)]⟩, rfl, fun all => ?_⟩
  have covered : Store.halved.Covers (fun _ _ _ => True) .halved (.tagged .conjunction "b") :=
    .inl ⟨.query, .inside List.mem_cons_self rfl (j := .filter) trivial (.own List.mem_cons_self)⟩
  obtain ⟨f, hf, occurs⟩ := all _ covered
  obtain rfl : ([("term", .map [("tag", "b")])] : Entries) = f := Except.ok.inj hf
  simp [query, SearchRequest.toEntries, allOf, Value.Occurs.map_iff, Value.Occurs.list_iff,
    Value.Occurs.str_iff, Value.Occurs.bool_iff] at occurs

end DocumentSearch
