import Mathlib.Data.List.TakeWhile
import DocumentSearch.Proofs.Matching.ByQuery

/-!
# Layouts of buckets

Where the fragments of a bucket stand in its query depends on nothing but how its clauses are
joined. Each fragment has one place, and the places are in the order of the clauses.
-/
namespace DocumentSearch

open Fragment Outcome

/-- An alternative of a bucket: a thing by itself, or things that are required together. -/
inductive Alternative (α : Type) where
  | alone (member : α)
  | together (members : List α)

namespace Alternative

variable {α β : Type}

def members : Alternative α → List α
  | alone a => [a]
  | together as => as

def map (f : α → β) : Alternative α → Alternative β
  | alone a => alone (f a)
  | together as => together (as.map f)

def value : Alternative Entries → Value
  | alone fragment => .map fragment
  | together fragments => .map (allOf fragments)

end Alternative

/-- A bucket with places for things: all of them are required, or any alternative will do. -/
inductive Layout (α : Type) where
  | all (members : List α)
  | any (alternatives : List (Alternative α))

namespace Layout

variable {α β : Type}

def members : Layout α → List α
  | all as => as
  | any alternatives => alternatives.flatMap Alternative.members

def map (f : α → β) : Layout α → Layout β
  | all as => all (as.map f)
  | any alternatives => any (alternatives.map (Alternative.map f))

def entries : Layout Entries → Entries
  | all fragments => allOf fragments
  | any alternatives => anyOf (alternatives.map Alternative.value)

end Layout

namespace Chain

variable {α β : Type}

/-- What comes before the first `or`, as one alternative. -/
def leading (parts : Chain α) : List (Alternative α) :=
  if parts.lead.isEmpty then [] else [.together (parts.lead.map Prod.snd)]

/-- A thing that is joined by `and` after an `or` is required by itself. -/
def following (part : Bool × α) : Alternative α := if part.1 then .alone part.2 else .together [part.2]

def layout (parts : Chain α) : Layout α :=
  if parts.later.isEmpty then .all (parts.map Prod.snd)
  else .any (parts.leading ++ parts.later.map following)

theorem members_following (part : Bool × α) : (following part).members = [part.2] := by
  obtain ⟨joined, a⟩ := part
  cases joined <;> rfl

theorem members_leading (parts : Chain α) :
    parts.leading.flatMap Alternative.members = parts.lead.map Prod.snd := by
  unfold leading
  cases parts.lead <;> simp [Alternative.members]

theorem members_layout (parts : Chain α) : parts.layout.members = parts.map Prod.snd := by
  unfold layout
  split
  · rfl
  · rw [Layout.members, List.flatMap_append, members_leading, List.flatMap_map]
    simp only [members_following]
    rw [← List.map_eq_flatMap, ← List.map_append, lead_append_later]

/-- The layout does not look at the things. -/
theorem layout_onParts (f : α → β) (parts : Chain α) :
    (parts.onParts f).layout = parts.layout.map f := by
  have following_map : ∀ part : Bool × α, following (part.1, f part.2) = (following part).map f := by
    rintro ⟨joined, a⟩
    cases joined <;> rfl
  have leading_map : (parts.onParts f).leading = parts.leading.map (Alternative.map f) := by
    unfold leading
    rw [lead_onParts]
    cases parts.lead <;> simp [onParts, Alternative.map]
  unfold layout
  rw [leading_map, later_onParts]
  cases parts.later with
  | nil => simp [onParts, Layout.map]
  | cons part rest => simp [onParts, Layout.map, following_map]

theorem joining_eq_layout (parts : Chain Entries) : joining parts = parts.layout.entries := by
  have following_value : ∀ part : Bool × Entries, (following part).value = alternative part := by
    rintro ⟨joined, fragment⟩
    cases joined <;> rfl
  have following_values : parts.later.map alternative =
      (parts.later.map following).map Alternative.value := by
    rw [List.map_map]
    exact List.map_congr_left fun part _ => (following_value part).symm
  unfold joining layout
  split
  · rfl
  · rw [following_values]
    unfold leading
    cases parts.lead <;> rfl

theorem lead_append {before after : Chain α} {a : α} (plain : ∀ p ∈ before, p.1 = false) :
    lead (before ++ (true, a) :: after) = before := by
  rw [lead, List.takeWhile_append_of_pos (by simpa using plain)]
  simp

theorem later_append {before after : Chain α} {a : α} (plain : ∀ p ∈ before, p.1 = false) :
    later (before ++ (true, a) :: after) = (true, a) :: after := by
  rw [later, List.dropWhile_append_of_pos (by simpa using plain)]
  simp

end Chain

/-- The layout of a bucket, with the places of its clauses. -/
def Clause.layout (clauses : List Clause) : Layout Nat :=
  Chain.layout ((clauses.map Clause.isOr).zip (List.range clauses.length))

def Fragment.must (fragments : List Entries) : Entries :=
  [("bool", .map [("must", .list (fragments.map Value.map))])]

/-- An alternative for a clause that comes from the first `or` on. -/
def Clause.alternative (clause : Clause) (fragment : Entries) : Value :=
  .map (if clause.isOr then fragment else must [fragment])

theorem Fragment.allOf_eq_must {fragments : List Entries} (some : fragments ≠ []) :
    allOf fragments = must fragments := by
  cases fragments with
  | nil => exact absurd rfl some
  | cons => rfl

namespace Dialect

variable {d : Dialect} {sub : Ref → Except Error Conditions} {clauses : List Clause}
  {fragments : List Entries}

theorem clauseFragments_eq_zip (written : clauses.mapM (d.clauseFragment sub) = .ok fragments) :
    d.clauseFragments sub clauses = .ok ((clauses.map Clause.isOr).zip fragments) := by
  induction clauses generalizing fragments with
  | nil =>
    obtain rfl := pure_eq_ok.mp written
    rfl
  | cons clause clauses ih =>
    obtain ⟨fragment, rest, first, others, rfl⟩ := mapM_cons_eq_ok.mp written
    refine mapM_cons_eq_ok.mpr ⟨(clause.isOr, fragment), _, ?_, ih others, rfl⟩
    rw [first]
    rfl

theorem bucketFragment_of_fragments (written : clauses.mapM (d.clauseFragment sub) = .ok fragments) :
    d.bucketFragment sub clauses = .ok (joining ((clauses.map Clause.isOr).zip fragments)) :=
  (d.bucketFragment_eq_ok sub).mpr ⟨_, clauseFragments_eq_zip written, rfl⟩

theorem length_of_fragments (written : clauses.mapM (d.clauseFragment sub) = .ok fragments) :
    fragments.length = clauses.length := by
  have counted := map_of_mapM (g := fun _ => ()) (k := fun _ => ()) written fun _ _ _ _ => rfl
  simpa using congrArg List.length counted

theorem joining_of_plain (same : fragments.length = clauses.length)
    (plain : ∀ clause ∈ clauses, clause.isOr = false) :
    joining ((clauses.map Clause.isOr).zip fragments) = allOf fragments := by
  have nothing : Chain.later ((clauses.map Clause.isOr).zip fragments) = [] := by
    refine List.dropWhile_eq_nil_iff.mpr fun part mem => ?_
    obtain ⟨clause, among, joined⟩ := List.mem_map.mp (List.of_mem_zip mem).1
    rw [← joined, plain clause among]
    rfl
  rw [joining, nothing, List.isEmpty_nil, if_pos rfl]
  rw [List.map_snd_zip (by simp [same])]

theorem joining_of_first {earlier later : List Clause} {clause : Clause} {before after : List Entries}
    {fragment : Entries} (same : before.length = earlier.length)
    (plain : ∀ clause ∈ earlier, clause.isOr = false) (first : clause.isOr = true) :
    joining (((earlier ++ clause :: later).map Clause.isOr).zip (before ++ fragment :: after)) =
      anyOf ((if earlier = [] then [] else [.map (must before)]) ++
        List.zipWith Clause.alternative (clause :: later) (fragment :: after)) := by
  have parts : ((earlier ++ clause :: later).map Clause.isOr).zip (before ++ fragment :: after) =
      (earlier.map Clause.isOr).zip before ++
        (true, fragment) :: (later.map Clause.isOr).zip after := by
    rw [List.map_append, List.zip_append (by simp [same]), List.map_cons, first, List.zip_cons_cons]
  have joined : ∀ p ∈ (earlier.map Clause.isOr).zip before, p.1 = false := by
    intro p mem
    obtain ⟨other, among, joined⟩ := List.mem_map.mp (List.of_mem_zip mem).1
    rw [← joined, plain other among]
  have alternatives : ((true, fragment) :: (later.map Clause.isOr).zip after).map alternative =
      List.zipWith Clause.alternative (clause :: later) (fragment :: after) := by
    rw [← first, ← List.zip_cons_cons, ← List.map_cons, List.zip_map_left, List.map_map,
      List.map_zip_eq_zipWith]
    exact congrArg (List.zipWith · _ _) rfl
  have leading : ((earlier.map Clause.isOr).zip before).map Prod.snd = before :=
    List.map_snd_zip (by simp [same])
  rw [joining, parts, Chain.lead_append joined, Chain.later_append joined, leading, alternatives]
  cases earlier with
  | nil =>
    obtain rfl := List.length_eq_zero_iff.mp same
    rfl
  | cons =>
    cases before with
    | nil => cases same
    | cons => rfl

/-- The query of a bucket holds the fragments at the places of its layout. -/
theorem joining_eq_layout (same : fragments.length = clauses.length) :
    joining ((clauses.map Clause.isOr).zip fragments) =
      ((Clause.layout clauses).map (fragments.getD · [])).entries := by
  rw [Chain.joining_eq_layout, Clause.layout, ← Chain.layout_onParts]
  congr 2
  refine List.ext_getElem (by simp [Chain.onParts, same]) fun i bound _ => ?_
  have inside : i < fragments.length := by
    simp only [List.length_zip] at bound
    omega
  simp [Chain.onParts, inside]

theorem queryOf_eq_nil {parts : Conditions} :
    queryOf parts = [] ↔ parts.query = [] ∧ parts.filter = [] := by
  unfold queryOf
  split
  · rename_i none
    rw [List.isEmpty_iff] at none
    simp [none]
  · rename_i some
    rw [List.isEmpty_iff] at some
    simp [some, attachFilter, Table.insert_ne_nil]

theorem has_of_fragment {body fragment : Entries} {key : String}
    (found : body.find? key = if fragment.isEmpty then none else some (.map fragment)) :
    (body.has key = true ↔ fragment ≠ []) ∧ body.find? key ≠ some (.map []) := by
  rw [Table.has, found]
  cases fragment <;> simp

end Dialect

/-- A bucket whose clauses can all be written is empty if there are none, requires all of them if
none is joined by `or`, and otherwise has the clauses before the first `or` as one alternative and
each later clause as another. Every fragment has one place, which depends on the ways of joining
alone, and the places are in order. So a search has a query if there are clauses or filters, a
filter after the aggregations if there are post filters, and neither is ever empty. -/
theorem Dialect.bucketFragment_closed (d : Dialect) :
    (∀ sub clauses fragments, clauses.mapM (d.clauseFragment sub) = .ok fragments →
      ∃ bucket, d.bucketFragment sub clauses = .ok bucket ∧
        (bucket = [] ↔ clauses = []) ∧
        (clauses ≠ [] → (∀ clause ∈ clauses, clause.isOr = false) → bucket = must fragments) ∧
        (∀ earlier clause later, clauses = earlier ++ clause :: later →
          (∀ other ∈ earlier, other.isOr = false) → clause.isOr = true →
          bucket = anyOf
            ((if earlier = [] then [] else [.map (must (fragments.take earlier.length))]) ++
              List.zipWith Clause.alternative (clause :: later)
                (fragments.drop earlier.length))) ∧
        bucket = ((Clause.layout clauses).map (fragments.getD · [])).entries ∧
        (Clause.layout clauses).members = List.range clauses.length) ∧
    ∀ store b request, d.searchRequest store b = .ok request →
      (request.body.has "query" = true ↔ b.wheres ≠ [] ∨ b.filters ≠ []) ∧
      (request.body.has "post_filter" = true ↔ b.postFilters ≠ []) ∧
      request.body.find? "query" ≠ some (.map []) ∧
      request.body.find? "post_filter" ≠ some (.map []) := by
  refine ⟨fun sub clauses fragments written => ?_, fun store b request written => ?_⟩
  · have same := length_of_fragments written
    refine ⟨_, bucketFragment_of_fragments written, ?_, fun some plain => ?_,
      fun earlier clause later split plain first => ?_, joining_eq_layout same, ?_⟩
    · exact d.bucketFragment_eq_nil sub (bucketFragment_of_fragments written)
    · rw [joining_of_plain same plain, allOf_eq_must]
      rintro rfl
      exact some (List.length_eq_zero_iff.mp same.symm)
    · subst split
      have left : (fragments.take earlier.length).length = earlier.length := by
        simp [same]
      cases right : fragments.drop earlier.length with
      | nil =>
        have short := List.drop_eq_nil_iff.mp right
        rw [same, List.length_append, List.length_cons] at short
        omega
      | cons fragment after =>
        rw [← joining_of_first left plain first, ← right, List.take_append_drop]
    · rw [Clause.layout, Chain.members_layout, List.map_snd_zip (by simp)]
  · simp only [searchRequest, bind_eq_ok, pure_eq_ok] at written
    obtain ⟨body, hb, index, -, rfl⟩ := written
    obtain ⟨parts, hp, query, postFilter⟩ := searchBody_parts hb
    have asked := conditions_unfold hp
    simp only [bucketFragments, bind_eq_ok, pure_eq_ok] at asked
    obtain ⟨wheres, hw, filters, hf, posts, hk, rfl⟩ := asked
    obtain ⟨present, filled⟩ := has_of_fragment query
    obtain ⟨kept, fuller⟩ := has_of_fragment postFilter
    refine ⟨?_, ?_, filled, fuller⟩
    · rw [present, ne_eq, queryOf_eq_nil, d.bucketFragment_eq_nil _ hw,
        d.bucketFragment_eq_nil _ hf, not_and_or]
    · rw [kept, ne_eq, d.bucketFragment_eq_nil _ hk]

def Clause.mixed : List Clause :=
  [.tagged .conjunction "a", .tagged .disjunction "b", .tagged .conjunction "c"]

def Fragment.tagTerm (tag : Value) : Entries := [("term", .map [("tag", tag)])]

theorem Dialect.bucketFragment_closed_mixed :
    Dialect.standard.bucketFragment (fun _ => .error .circularQuery) Clause.mixed =
        .ok (anyOf [.map (must [tagTerm "a"]), .map (tagTerm "b"), .map (must [tagTerm "c"])]) ∧
      ∃ request, Dialect.standard.searchRequest .grouped .grouped = .ok request ∧
        request.body.has "query" = true ∧ request.body.has "post_filter" = false := by
  obtain ⟨buckets, searches⟩ := bucketFragment_closed Dialect.standard
  constructor
  · obtain ⟨bucket, written, -, -, joined, -⟩ := buckets (fun _ => .error .circularQuery)
      Clause.mixed [tagTerm "a", tagTerm "b", tagTerm "c"] rfl
    rw [written, joined [.tagged .conjunction "a"] (.tagged .disjunction "b")
      [.tagged .conjunction "c"] rfl (by decide) rfl]
    rfl
  · obtain ⟨request, written⟩ : ∃ request,
      Dialect.standard.searchRequest .grouped .grouped = .ok request := ⟨_, rfl⟩
    obtain ⟨query, postFilter, -, -⟩ := searches .grouped .grouped request written
    refine ⟨request, written, query.mpr (.inl (by decide)), ?_⟩
    exact Bool.eq_false_iff.mpr fun present => postFilter.mp present rfl

end DocumentSearch
