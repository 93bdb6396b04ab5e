import DocumentSearch.Proofs.Fluent.Refusal
import DocumentSearch.Proofs.Fluent.Rehoming
import DocumentSearch.Proofs.Heap.Bare
import DocumentSearch.Proofs.Matching.Contribution
import DocumentSearch.Proofs.Matching.Search

/-!
# Groups as parentheses

A builder that is added to another one as a group has its clauses put in parentheses. Its query
joins the query and its filter joins the filter, each as one more clause. Required beside what was
there, the group asks for what its builder asks. As an alternative it is one in each of the two
buckets by itself, so the two parts are alternatives together only where there are no filters.
-/
namespace DocumentSearch

open Fragment Outcome

theorem Chain.holds_concat {Doc : Type} {parts : Chain (Doc → Bool)}
    (plain : ∀ p ∈ parts, p.1 = false) (joined : Bool) (last : Doc → Bool) (doc : Doc) :
    Chain.holds (parts ++ [(joined, last)]) doc =
      if joined && !parts.isEmpty then parts.all (·.2 doc) || last doc
      else parts.all (·.2 doc) && last doc := by
  have required : ∀ p ∈ parts, (!p.1) = true := fun p mem => by simp [plain p mem]
  have lead : Chain.lead (parts ++ [(joined, last)]) =
      parts ++ if joined then [] else [(joined, last)] := by
    rw [lead, List.takeWhile_append_of_pos required]
    cases joined <;> rfl
  have later : Chain.later (parts ++ [(joined, last)]) =
      if joined then [(joined, last)] else [] := by
    rw [later, List.dropWhile_append_of_pos required]
    cases joined <;> rfl
  unfold holds
  rw [lead, later]
  cases joined with
  | false => simp
  | true => cases parts <;> simp

namespace Engine

variable {Doc : Type} (e : Engine Doc)

/-- Whether a document is matched by a fragment; every document is if there is none. -/
def passes (fragment : Entries) (doc : Doc) : Bool := fragment.isEmpty || e.accepts fragment doc

/-- Whether a search with some conditions finds a document by its query. -/
def finds (parts : Conditions) (doc : Doc) : Bool := e.passes (Dialect.queryOf parts) doc

/-- Two fragments joined as clauses are. One that is not there is no alternative. -/
def combined (connective : Connective) (one other : Entries) (doc : Doc) : Bool :=
  if connective = .disjunction ∧ one ≠ [] ∧ other ≠ [] then e.passes one doc || e.passes other doc
  else e.passes one doc && e.passes other doc

@[simp] theorem passes_nil (doc : Doc) : e.passes [] doc = true := rfl

theorem passes_of_ne_nil {fragment : Entries} (some : fragment ≠ []) (doc : Doc) :
    e.passes fragment doc = e.accepts fragment doc := by
  simp [passes, some]

theorem passes_joining {parts : Chain Entries} (plain : ∀ p ∈ parts, p.1 = false) (doc : Doc) :
    e.passes (joining parts) doc = parts.all (fun p => e.accepts p.2 doc) := by
  cases parts with
  | nil => rfl
  | cons p rest =>
    have later : Chain.later (p :: rest) = [] := by
      rw [Chain.later, ← List.append_nil (p :: rest),
        List.dropWhile_append_of_pos fun p mem => by simp [plain p mem]]
      rfl
    have some : joining (p :: rest) ≠ [] := mt joining_eq_nil.mp (List.cons_ne_nil p rest)
    rw [passes_of_ne_nil e some, joining, later]
    simp [accepts_allOf, Function.comp_def]

theorem passes_joining_concat {parts : Chain Entries} (plain : ∀ p ∈ parts, p.1 = false)
    {c : Clause} {fragment : Entries} (some : fragment ≠ []) (doc : Doc) :
    e.passes (joining (parts ++ [(c.isOr, fragment)])) doc =
      e.combined c.connective (joining parts) fragment doc := by
  have filled : parts ++ [(c.isOr, fragment)] ≠ [] := by simp
  have accepted : ∀ p ∈ parts.onParts e.accepts, p.1 = false := by
    intro p mem
    obtain ⟨q, there, rfl⟩ := List.mem_map.mp mem
    exact plain q there
  have split : Chain.onParts e.accepts (parts ++ [(c.isOr, fragment)]) =
      parts.onParts e.accepts ++ [(c.isOr, e.accepts fragment)] := List.map_append
  have all : (parts.onParts e.accepts).all (·.2 doc) = e.passes (joining parts) doc := by
    rw [passes_joining e plain]
    simp [Chain.onParts, Function.comp_def]
  have empty : (parts.onParts e.accepts).isEmpty = parts.isEmpty := List.isEmpty_map
  rw [passes_of_ne_nil e (mt joining_eq_nil.mp filled), accepts_joining e filled, split,
    Chain.holds_concat accepted, all, empty, combined, passes_of_ne_nil e some]
  simp only [Clause.isOr, ne_eq, joining_eq_nil, some, not_false_eq_true, and_true]
  by_cases or : c.connective = .disjunction <;> by_cases none : parts = [] <;> simp [or, none]

variable {e} {d : Dialect} {store : Store}

theorem Expresses.passes {fragment : Entries} {asked : Option (Doc → Bool)}
    (expresses : e.Expresses fragment asked) (doc : Doc) :
    e.passes fragment doc = Senses.meets asked doc := by
  by_cases none : fragment = []
  · subst none
    exact (expresses.meets_of_nil doc).symm
  · rw [passes_of_ne_nil e none, expresses.accepts doc none]

/-- A search finds by its query what passes the clauses and the filters. -/
theorem finds_eq {b : Builder} {parts : Conditions} (h : d.conditions store b = .ok parts)
    (doc : Doc) : e.finds parts doc = (e.passes parts.query doc && e.passes parts.filter doc) := by
  have agree : e.Agrees parts (e.senses d store b) := agrees_conditions h
  rw [agree.query.passes, agree.filter.passes, finds]
  by_cases none : parts.filter = []
  · have silent : e.Expresses [] (e.senses d store b).filter := none ▸ agree.filter
    have query : Dialect.queryOf parts = parts.query := by simp [Dialect.queryOf, none]
    rw [query, agree.query.passes, silent.meets_of_nil, Bool.and_true]
  · have attached : Dialect.queryOf parts = Dialect.attachFilter parts.query parts.filter := by
      simp [Dialect.queryOf, none]
    have some : Dialect.attachFilter parts.query parts.filter ≠ [] := Table.insert_ne_nil _ _ _
    rw [attached, passes_of_ne_nil e some, accepts_attachFilter agree.query agree.filter none]

theorem partAccepts_eq_finds {b : Builder} {request : Dialect.SearchRequest} {parts : Conditions}
    (h : d.searchRequest store b = .ok request) (hp : d.conditions store b = .ok parts)
    (doc : Doc) : e.partAccepts request.body "query" doc = e.finds parts doc := by
  simp only [Dialect.searchRequest, bind_eq_ok, pure_eq_ok] at h
  obtain ⟨body, hb, index, -, rfl⟩ := h
  obtain ⟨other, ho, query, -⟩ := Dialect.searchBody_parts hb
  cases hp.symm.trans ho
  by_cases none : Dialect.queryOf parts = [] <;> simp [partAccepts, finds, passes, query, none]

end Engine

namespace Dialect

variable {d : Dialect} {sub : Ref → Except Error Conditions} {clauses : List Clause}
  {store : Store} {ref inner : Ref} {connective : Connective}

theorem clauseFragments_concat {c : Clause} {parts : Chain Entries} :
    d.clauseFragments sub (clauses ++ [c]) = .ok parts ↔
      ∃ earlier f, d.clauseFragments sub clauses = .ok earlier ∧ d.clauseFragment sub c = .ok f ∧
        parts = earlier ++ [(c.isOr, f)] := by
  simp only [clauseFragments, List.mapM_append, List.mapM_cons, List.mapM_nil, bind_eq_ok,
    pure_eq_ok]
  constructor
  · rintro ⟨earlier, he, _, ⟨_, ⟨f, hf, rfl⟩, _, rfl, rfl⟩, rfl⟩
    exact ⟨earlier, f, he, hf, rfl⟩
  · rintro ⟨earlier, f, he, hf, rfl⟩
    exact ⟨earlier, he, [(c.isOr, f)], ⟨(c.isOr, f), ⟨f, hf, rfl⟩, [], rfl, rfl⟩, rfl⟩

theorem plain_of_clauseFragments {parts : Chain Entries}
    (h : d.clauseFragments sub clauses = .ok parts) (plain : ∀ c ∈ clauses, c.isOr = false) :
    ∀ p ∈ parts, p.1 = false := by
  have joined : parts.map Prod.fst = clauses.map Clause.isOr := by
    refine map_of_mapM h fun c _ p hc => ?_
    obtain ⟨f, -, paired⟩ := bind_eq_ok.mp hc
    rw [← pure_eq_ok.mp paired]
  intro p mem
  obtain ⟨c, among, same⟩ := List.mem_map.mp (joined ▸ List.mem_map_of_mem mem)
  rw [← same, plain c among]

theorem fragment_grouping {inside : Conditions} {k : Bucket} (hi : sub inner = .ok inside)
    (some : inside.part k ≠ []) :
    d.clauseFragment sub (.grouping connective inner k) =
      if d.supports .group then .ok (inside.part k) else .error (.unsupportedClause .group) := by
  have part : partOf (.str k.name) = .ok (.some k) := by cases k <;> rfl
  have fragment : d.conditionFragment sub [] false (.group inner (.str k.name)) =
      .ok (inside.part k) := by
    simp only [conditionFragment, hi, group, part]
    exact if_neg (by simpa using some)
  exact if_congr Iff.rfl fragment rfl

end Dialect

namespace Engine

open Dialect

variable {Doc : Type} {e : Engine Doc} {d : Dialect} {store : Store} {ref inner : Ref}
  {connective : Connective} {k : Bucket}

theorem passes_grouped {clauses : List Clause} {inside : Conditions} {own part : Entries}
    (plain : ∀ c ∈ clauses, c.isOr = false) (asked : k ≠ .postFilter)
    (hi : d.conditions store (store.get inner) = .ok inside)
    (before : d.bucketFragment (fun r => d.conditions store (store.get r)) clauses = .ok own)
    (after : d.bucketFragment (fun r => d.conditions store (store.get r))
      (clauses ++ store.grouping connective inner k) = .ok part) (doc : Doc) :
    e.passes part doc = e.combined connective own (inside.part k) doc := by
  have empty := part_eq_nil (conditions_unfold hi) k
  rcases store.grouping_cases connective inner k with ⟨none, nothing⟩ | ⟨filled, added⟩
  · rw [nothing, List.append_nil, before] at after
    obtain rfl := Except.ok.inj after
    simp [combined, empty.mpr (none.resolve_right asked)]
  · have some : inside.part k ≠ [] := mt empty.mp filled
    rw [added, bucketFragment_eq_ok] at after
    obtain ⟨parts, written, rfl⟩ := after
    obtain ⟨earlier, f, he, hf, rfl⟩ := clauseFragments_concat.mp written
    obtain ⟨others, ho, rfl⟩ := (bucketFragment_eq_ok _ _).mp before
    cases he.symm.trans ho
    rw [fragment_grouping hi some] at hf
    split at hf
    · obtain rfl := Except.ok.inj hf
      exact passes_joining_concat e (plain_of_clauseFragments he plain) some doc
    · cases hf

end Engine

namespace Store

variable {store : Store} {ref inner : Ref} {connective : Connective} {b : Builder}

def Grouped (store : Store) (connective : Connective) (inner : Ref) (own b : Builder) : Prop :=
  ∀ k, b.bucket k = own.bucket k ++ store.grouping connective inner k

theorem Grouped.query?_cases {own : Builder} (grouped : store.Grouped connective inner own b)
    {k : Bucket} {c : Clause} (mem : c ∈ b.bucket k) {r : Ref}
    (refers : c.condition.query? = some r) :
    (∃ c ∈ own.bucket k, c.condition.query? = some r) ∨ r = inner := by
  rw [grouped k] at mem
  rcases List.mem_append.mp mem with old | new
  · exact .inl ⟨c, old, refers⟩
  · rcases store.grouping_cases connective inner k with ⟨-, nothing⟩ | ⟨-, added⟩
    · rw [nothing] at new
      cases new
    · rw [added] at new
      obtain rfl := List.mem_singleton.mp new
      exact .inr (Option.some.inj refers).symm

theorem Grouped.reaches (grouped : store.Grouped connective inner (store.get ref) b)
    (known : ref.index < store.size) {x y : Ref} (reaches : store.Reaches x y) :
    (store.set ref b).Reaches x y := by
  refine Relation.ReflTransGen.mono (fun u v refers => ?_) x y reaches
  obtain ⟨k, c, mem, query⟩ := bare_refers.mp refers
  refine bare_refers.mpr ⟨k, c, ?_, query⟩
  by_cases own : u = ref
  · subst own
    rw [get_set_self store u b known, grouped k]
    exact List.mem_append_left _ mem
  · rwa [get_set_of_ne store b own]

end Store

/-- A builder in the place of a column is added as a group. -/
theorem FluentCall.perform_group (store : Store) (ref inner : Ref) (connective : Connective)
    (operator value : Option Value) :
    ∃ b, (edit (.criterion (.comparison (.builder inner) operator value connective.name))).perform
        store ref = (.ok (), store.set ref b) ∧
      store.Grouped connective inner (store.get ref) b := by
  have named := Criterion.connectiveOf_name .group connective
  have read : Criterion.clauses store ref
      (.comparison (.builder inner) operator value connective.name) =
        .ok (store.groupings connective inner) := Criterion.groupClauses_eq store named inner
  refine ⟨(store.get ref).place (store.groupings connective inner), ?_, fun k => ?_⟩
  · rw [perform_edit]
    simp only [Edit.apply, read]
    rfl
  · rw [Builder.bucket_place]
    exact congrArg _ (store.into_groupings connective inner k)

namespace Dialect

open Store

variable {d : Dialect} {sub : Ref → Except Error Conditions} {store : Store} {ref inner : Ref}
  {connective : Connective} {own inside : Conditions} {b : Builder}

theorem exists_bucketFragments
    (each : ∀ k, ∃ part, d.bucketFragment sub (b.bucket k) = .ok part) :
    ∃ parts, d.bucketFragments sub b = .ok parts := by
  obtain ⟨query, hq⟩ := each .query
  obtain ⟨filter, hf⟩ := each .filter
  obtain ⟨postFilter, hp⟩ := each .postFilter
  refine ⟨⟨query, filter, postFilter⟩, ?_⟩
  simp only [bucketFragments, bind_eq_ok, pure_eq_ok]
  exact ⟨query, hq, filter, hf, postFilter, hp, rfl⟩

/-- A builder with a group is written, if it is, from what its own builders and that of the group
were written as before. -/
theorem conditions_grouped (known : ref.index < store.size)
    (grouped : store.Grouped connective inner (store.get ref) b)
    (before : d.conditions store (store.get ref) = .ok own)
    (hi : d.conditions store (store.get inner) = .ok inside) (apart : ¬store.Reaches inner ref) :
    d.conditions (store.set ref b) b =
      d.bucketFragments (fun r => d.conditions store (store.get r)) b := by
  refine conditions_set known fun k c mem r refers => ?_
  rcases grouped.query?_cases mem refers with ⟨c, old, refers⟩ | rfl
  · have first : store.bare.Refers ref r := bare_refers.mpr ⟨k, c, old, refers⟩
    refine ⟨fun back => ?_, ?_⟩
    · exact untangled_of_conditions before ref .refl (.head' first back)
    · obtain ⟨f, hf, -⟩ := gathers_of_mem (conditions_unfold before) old
      exact written_of_clauseFragment hf refers
  · exact ⟨apart, inside, hi⟩

theorem exists_grouped_bucketFragment {clauses : List Clause} {part : Entries} {k : Bucket}
    (supported : d.supports .group = true)
    (before : d.bucketFragment (fun r => d.conditions store (store.get r)) clauses = .ok part)
    (hi : d.conditions store (store.get inner) = .ok inside) :
    ∃ f, d.bucketFragment (fun r => d.conditions store (store.get r))
      (clauses ++ store.grouping connective inner k) = .ok f := by
  rcases store.grouping_cases connective inner k with ⟨-, nothing⟩ | ⟨filled, added⟩
  · rw [nothing, List.append_nil]
    exact ⟨part, before⟩
  · have some : inside.part k ≠ [] := mt (part_eq_nil (conditions_unfold hi) k).mp filled
    obtain ⟨chain, hc, -⟩ := (bucketFragment_eq_ok _ _).mp before
    rw [added]
    refine ⟨_, (bucketFragment_eq_ok _ _).mpr ⟨_, clauseFragments_concat.mpr
      ⟨chain, inside.part k, hc, ?_, rfl⟩, rfl⟩⟩
    rw [fragment_grouping hi some, if_pos supported]

/-- A builder with a group can be written unless the group leads back to it. -/
theorem conditions_grouped_iff (known : ref.index < store.size)
    (grouped : store.Grouped connective inner (store.get ref) b)
    (before : d.conditions store (store.get ref) = .ok own)
    (hi : d.conditions store (store.get inner) = .ok inside)
    (filled : (store.get inner).wheres ≠ [] ∨ (store.get inner).filters ≠ []) :
    (∃ parts, d.conditions (store.set ref b) b = .ok parts) ↔
      d.supports .group = true ∧ ¬store.Reaches inner ref := by
  constructor
  · rintro ⟨parts, written⟩
    obtain ⟨k, added⟩ : ∃ k, store.grouping connective inner k =
        [.grouping connective inner k] := by
      rcases filled with some | some
      · exact ⟨.query, if_neg (by simpa [Builder.bucket] using some)⟩
      · exact ⟨.filter, if_neg (by simpa [Builder.bucket] using some)⟩
    have mem : Clause.grouping connective inner k ∈ b.bucket k := by
      rw [grouped k, added]
      exact List.mem_append_right _ List.mem_cons_self
    refine ⟨?_, fun reaches => ?_⟩
    · obtain ⟨f, hf, -⟩ := gathers_of_mem (conditions_unfold written) mem
      exact (clauseFragment_eq_ok.mp hf).1
    · have here : (store.set ref b).get ref = b := get_set_self store ref b known
      have first : (store.set ref b).bare.Refers ref inner :=
        bare_refers.mpr ⟨k, _, here.symm ▸ mem, rfl⟩
      have still : d.conditions (store.set ref b) ((store.set ref b).get ref) = .ok parts := by
        rw [here, written]
      have clear := untangled_of_conditions still
      exact clear ref .refl (.head' first (grouped.reaches known reaches))
  · rintro ⟨supported, apart⟩
    rw [conditions_grouped known grouped before hi apart]
    refine exists_bucketFragments fun k => ?_
    rw [grouped k]
    exact exists_grouped_bucketFragment supported
      (bucketFragment_part (conditions_unfold before) k) hi

end Dialect

theorem Builder.plain_tagged (tag : String) (k : Bucket) (_ : k ≠ .postFilter) :
    ∀ c ∈ { Builder.blank "id" with wheres := [.tagged .conjunction tag] }.bucket k,
      c.isOr = false := by
  cases k with
  | query => exact List.forall_mem_singleton.mpr rfl
  | filter | postFilter => exact nofun

namespace Engine

open Dialect

variable {d : Dialect} {store after : Store} {ref inner : Ref} {connective : Connective}
  {own inside : Conditions}

/-- A builder whose clauses are all required, and another one added to it as a group. The search can
be written afterwards unless the group leads back. Its query and its filter are each those of the
builder joined with those of the group, so a required group narrows the search to what its own
search finds, and an alternative one widens it by that where neither has filters. -/
theorem group_finds {operator value : Option Value} {outcome : Except Error Unit}
    (known : ref.index < store.size)
    (plain : ∀ k, k ≠ .postFilter → ∀ c ∈ (store.get ref).bucket k, c.isOr = false)
    (filled : (store.get inner).wheres ≠ [] ∨ (store.get inner).filters ≠ [])
    (before : d.conditions store (store.get ref) = .ok own)
    (hi : d.conditions store (store.get inner) = .ok inside)
    (called : (FluentCall.edit (.criterion (.comparison (.builder inner) operator value
      connective.name))).perform store ref = (outcome, after)) :
    outcome = .ok () ∧
      ((∃ parts, d.conditions after (after.get ref) = .ok parts) ↔
        d.supports .group = true ∧ ¬store.Reaches inner ref) ∧
      ∀ parts, d.conditions after (after.get ref) = .ok parts →
        ∀ {Doc : Type} (e : Engine Doc) (doc : Doc),
          (∀ request, d.searchRequest after (after.get ref) = .ok request →
            e.partAccepts request.body "query" doc = e.finds parts doc) ∧
          e.finds parts doc = (e.combined connective own.query inside.query doc &&
            e.combined connective own.filter inside.filter doc) ∧
          (connective = .conjunction →
            e.finds parts doc = (e.finds own doc && e.finds inside doc)) ∧
          (connective = .disjunction → (store.get ref).wheres ≠ [] → (store.get ref).filters = [] →
            (store.get inner).filters = [] →
            e.finds parts doc = (e.finds own doc || e.finds inside doc)) := by
  obtain ⟨b, performed, grouped⟩ :=
    FluentCall.perform_group store ref inner connective operator value
  obtain ⟨rfl, rfl⟩ := Prod.mk.inj (called.symm.trans performed)
  have writable := conditions_grouped_iff known grouped before hi filled
  rw [Store.get_set_self store ref b known]
  refine ⟨rfl, writable, fun parts written Doc e doc => ?_⟩
  have whole := written
  rw [conditions_grouped known grouped before hi (writable.mp ⟨parts, written⟩).2] at whole
  have joined : ∀ k, k ≠ .postFilter →
      e.passes (parts.part k) doc = e.combined connective (own.part k) (inside.part k) doc := by
    intro k asked
    have part := bucketFragment_part whole k
    rw [grouped k] at part
    exact passes_grouped (plain k asked) asked hi
      (bucketFragment_part (conditions_unfold before) k) part doc
  have both : e.finds parts doc = (e.combined connective own.query inside.query doc &&
      e.combined connective own.filter inside.filter doc) := by
    have query : e.passes parts.query doc = _ := joined .query nofun
    have filter : e.passes parts.filter doc = _ := joined .filter nofun
    rw [finds_eq written, query, filter]
    rfl
  refine ⟨fun request h => partAccepts_eq_finds h written doc, both, ?_, ?_⟩
  · rintro rfl
    rw [both, finds_eq before, finds_eq hi]
    simp only [combined, reduceCtorEq, false_and, if_false]
    ac_rfl
  · rintro rfl some none silent
    have ownQuery : own.query ≠ [] := mt (part_eq_nil (conditions_unfold before) .query).mp some
    have ownFilter : own.filter = [] := (part_eq_nil (conditions_unfold before) .filter).mpr none
    have innerFilter : inside.filter = [] := (part_eq_nil (conditions_unfold hi) .filter).mpr silent
    have innerQuery : inside.query ≠ [] := by
      refine mt (part_eq_nil (conditions_unfold hi) .query).mp fun empty => ?_
      exact filled.elim (absurd empty) (absurd silent)
    rw [both, finds_eq before, finds_eq hi, ownFilter, innerFilter]
    simp [combined, ownQuery, innerQuery]

/-- One tag, with a group of alternatives as another alternative. -/
theorem group_finds_grouped :
    ∃ after own parts, (FluentCall.edit (.criterion (.comparison (.builder ⟨0⟩) none none
        Connective.disjunction.name))).perform .grouped ⟨1⟩ = (.ok (), after) ∧
      Dialect.standard.conditions .grouped (Store.grouped.get ⟨1⟩) = .ok own ∧
      Dialect.standard.conditions after (after.get ⟨1⟩) = .ok parts ∧
      tags.finds own "a" = false ∧ tags.finds parts "a" = true := by
  obtain ⟨⟨outcome, after⟩, called⟩ : ∃ r, (FluentCall.edit (.criterion
    (.comparison (.builder ⟨0⟩) none none Connective.disjunction.name))).perform .grouped ⟨1⟩ = r :=
      ⟨_, rfl⟩
  obtain ⟨own, before⟩ : ∃ own, Dialect.standard.conditions .grouped (Store.grouped.get ⟨1⟩) =
    .ok own := ⟨_, rfl⟩
  obtain ⟨inside, hi⟩ : ∃ inside, Dialect.standard.conditions .grouped (Store.grouped.get ⟨0⟩) =
    .ok inside := ⟨_, rfl⟩
  have apart : ¬Store.grouped.Reaches ⟨0⟩ ⟨1⟩ := by
    intro reaches
    rcases Relation.ReflTransGen.cases_head reaches with same | ⟨y, refers, -⟩
    · cases same
    · exact nomatch (show y ∈ ([] : List Ref) from refers)
  have filled : (Store.grouped.get ⟨0⟩).wheres ≠ [] ∨ (Store.grouped.get ⟨0⟩).filters ≠ [] :=
    .inl (List.cons_ne_nil _ _)
  have plain : ∀ k, k ≠ .postFilter → ∀ c ∈ (Store.grouped.get ⟨1⟩).bucket k, c.isOr = false :=
    Builder.plain_tagged "b"
  obtain ⟨rfl, writable, law⟩ := group_finds (by decide) plain filled before hi called
  obtain ⟨parts, written⟩ := writable.mpr ⟨rfl, apart⟩
  obtain ⟨-, -, -, either⟩ := law parts written tags "a"
  refine ⟨after, own, parts, called, before, written, ?_, ?_⟩
  · obtain rfl := Except.ok.inj before
    rfl
  · rw [either rfl nofun rfl rfl]
    obtain rfl := Except.ok.inj hi
    exact Bool.or_true _

/-- A filter as an alternative to a tag narrows the search. -/
theorem group_alternatives_apart :
    ¬∀ (d : Dialect) (store after : Store) (ref inner : Ref) (own inside parts : Conditions),
      (∀ k, k ≠ .postFilter → ∀ c ∈ (store.get ref).bucket k, c.isOr = false) →
      (store.get ref).wheres ≠ [] →
      (store.get inner).wheres ≠ [] ∨ (store.get inner).filters ≠ [] →
      (store.get inner).postFilters = [] →
      d.conditions store (store.get ref) = .ok own →
      d.conditions store (store.get inner) = .ok inside →
      (FluentCall.edit (.criterion (.comparison (.builder inner) none none
        Connective.disjunction.name))).perform store ref = (.ok (), after) →
      d.conditions after (after.get ref) = .ok parts →
      ∀ doc, tags.finds parts doc = (tags.finds own doc || tags.finds inside doc) := by
  intro all
  have both := all .standard .layered _ ⟨2⟩ ⟨0⟩ _ _ _ (Builder.plain_tagged "b") nofun (.inr nofun)
    rfl rfl rfl rfl rfl "b"
  exact nomatch both

end Engine

end DocumentSearch
