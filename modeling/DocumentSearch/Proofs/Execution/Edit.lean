import DocumentSearch.Execution.Action
import DocumentSearch.Proofs.Outcome

/-!
# What edits leave alone

Edits change the conditions, the columns, the page and the options of a builder, and one of them
names its index. What depends on none of these is the same after any number of edits.
-/
namespace DocumentSearch

open Outcome

namespace Builder

variable {α : Type} {f : Builder → α} {b b' : Builder}

/-- What does not depend on anything that edits other than naming an index change. -/
structure Apart (f : Builder → α) : Prop where
  columns : ∀ b v, f { b with columns := v } = f b
  wheres : ∀ b v, f { b with wheres := v } = f b
  filters : ∀ b v, f { b with filters := v } = f b
  postFilters : ∀ b v, f { b with postFilters := v } = f b
  aggregations : ∀ b v, f { b with aggregations := v } = f b
  orders : ∀ b v, f { b with orders := v } = f b
  limit : ∀ b v, f { b with limit := v } = f b
  offset : ∀ b v, f { b with offset := v } = f b
  expandInnerHits : ∀ b v, f { b with expandInnerHits := v } = f b
  options : ∀ b v, f { b with options := v } = f b
  routing : ∀ b v, f { b with routing := v } = f b
  parentId : ∀ b v, f { b with parentId := v } = f b

theorem apart_index : Apart index := by constructor <;> intros <;> rfl

namespace Apart

theorem resetOne (apart : Apart f) {name : Value} (h : b.resetOne name = .ok b') : f b' = f b := by
  obtain ⟨name, -, h⟩ := bind_eq_ok.mp h
  split at h
  · rename_i found
    obtain rfl := pure_eq_ok.mp h
    obtain ⟨field, -, reset⟩ := Option.bind_eq_some_iff.mp found
    unfold without? at reset
    split at reset <;> cases reset
    · exact apart.columns b _
    · exact apart.wheres b _
    · exact apart.filters b _
    · exact apart.postFilters b _
    · exact apart.aggregations b _
    · exact apart.orders b _
    · exact apart.limit b _
    · exact apart.offset b _
  · cases h

theorem cloneWithout (apart : Apart f) {names : List Value} (h : b.cloneWithout names = .ok b') :
    f b' = f b.clone := by
  unfold Builder.cloneWithout at h
  generalize b.clone = copy at h ⊢
  induction names generalizing copy with
  | nil =>
    obtain rfl := pure_eq_ok.mp h
    rfl
  | cons name rest ih =>
    rw [List.foldlM_cons] at h
    obtain ⟨reset, done, h⟩ := bind_eq_ok.mp h
    rw [ih reset h, apart.resetOne done]

theorem append (apart : Apart f) (b : Builder) (k : Bucket) (cs : List Clause) :
    f (b.append k cs) = f b := by
  cases k with
  | query => exact apart.wheres b _
  | filter => exact apart.filters b _
  | postFilter => exact apart.postFilters b _

theorem place (apart : Apart f) (b : Builder) (clauses : List (Bucket × Clause)) :
    f (b.place clauses) = f b := by
  unfold Builder.place
  induction clauses generalizing b with
  | nil => rfl
  | cons c rest ih => rw [List.foldl_cons, ih, apart.append]

theorem withColumns (apart : Apart f) {columns : List Value} (h : b.withColumns columns = .ok b') :
    f b' = f b := by
  unfold Builder.withColumns at h
  split at h
  · cases h
    exact apart.columns b _
  · obtain ⟨_, -, h⟩ := bind_eq_ok.mp h
    obtain rfl := pure_eq_ok.mp h
    exact apart.columns b _
  · cases h
    exact apart.columns b _

theorem withLimit (apart : Apart f) {value : Value} (h : b.withLimit value = .ok b') :
    f b' = f b := by
  obtain ⟨_, -, h⟩ := bind_eq_ok.mp h
  obtain rfl := pure_eq_ok.mp h
  exact apart.limit b _

theorem withOffset (apart : Apart f) {value : Value} (h : b.withOffset value = .ok b') :
    f b' = f b := by
  obtain ⟨_, -, h⟩ := bind_eq_ok.mp h
  obtain rfl := pure_eq_ok.mp h
  exact apart.offset b _

theorem withRefresh (apart : Apart f) {option : Value} (h : b.withRefresh option = .ok b') :
    f b' = f b := by
  unfold Builder.withRefresh at h
  split at h
  · cases h
    exact apart.options b _
  · cases h

theorem withConflicts (apart : Apart f) {option : Value} (h : b.withConflicts option = .ok b') :
    f b' = f b := by
  unfold Builder.withConflicts at h
  split at h
  · cases h
    exact apart.options b _
  · cases h

theorem withAggregation (apart : Apart f) {a : Aggregation} (h : b.withAggregation a = .ok b') :
    f b' = f b := by
  unfold Builder.withAggregation at h
  split at h
  · cases h
  · cases h
    exact apart.aggregations b _

theorem filtered (apart : Apart f) {store : Store} {self : Ref} {kind bucket : Value}
    {arguments : Arguments Value} (h : b.filtered store self kind arguments bucket = .ok b') :
    f b' = f b := by
  obtain ⟨target, -, h⟩ := bind_eq_ok.mp h
  obtain ⟨-, h⟩ := unless_eq_ok.mp h
  obtain ⟨clauses, -, h⟩ := bind_eq_ok.mp h
  obtain rfl := pure_eq_ok.mp h
  rw [placeFiltered, apart.append, apart.place]

theorem withClauseOptions (apart : Apart f) (store : Store) (self : Ref) (b : Builder)
    (kind : Value) (arguments : Arguments Value) (options : Value) :
    f (b.withClauseOptions store self kind arguments options).2 = f b := by
  unfold Builder.withClauseOptions
  split
  · rfl
  · split <;> exact apart.place b _

theorem settle {outcome : Except Error Builder} (h : ∀ b', outcome = .ok b' → f b' = f b) :
    f (Edit.settle b outcome).2 = f b := by
  cases outcome with
  | error e => rfl
  | ok b' => exact h b' rfl

theorem withPage (apart : Apart f) (b : Builder) (page perPage : Value) :
    f (b.withPage page perPage).2 = f b := by
  unfold Builder.withPage
  split
  · rfl
  · rename_i moved h
    obtain ⟨start, -, offset⟩ := bind_eq_ok.mp h
    rw [settle fun _ => apart.withLimit, apart.withOffset offset]

theorem apply (apart : Apart f) (store : Store) (self : Ref) (b : Builder) (edit : Edit)
    (unnamed : ∀ v, edit ≠ .index v) : f (edit.apply store self b).2 = f b := by
  cases edit with
  | index v => exact absurd rfl (unnamed v)
  | select columns => exact settle fun _ => apart.withColumns
  | limit v => exact settle fun _ => apart.withLimit
  | offset v => exact settle fun _ => apart.withOffset
  | page p perPage => exact apart.withPage b p perPage
  | routing v => exact apart.routing b v
  | parentId v => exact apart.parentId b v
  | expandInnerHits => exact apart.expandInnerHits b true
  | refresh option => exact settle fun _ => apart.withRefresh
  | conflicts option => exact settle fun _ => apart.withConflicts
  | clause c bucket =>
    refine settle fun b' h => ?_
    obtain ⟨k, -, h⟩ := bind_eq_ok.mp h
    obtain rfl := pure_eq_ok.mp h
    exact apart.append b k [c]
  | criterion c =>
    refine settle fun b' h => ?_
    obtain ⟨clauses, -, h⟩ := bind_eq_ok.mp h
    obtain rfl := pure_eq_ok.mp h
    exact apart.place b clauses
  | withOptions kind arguments options =>
    exact apart.withClauseOptions store self b kind arguments options
  | filter kind arguments bucket => exact settle fun _ => apart.filtered
  | aggregation key type args sub =>
    refine settle fun b' h => ?_
    obtain ⟨sub, -, h⟩ := bind_eq_ok.mp h
    obtain ⟨a, -, h⟩ := bind_eq_ok.mp h
    exact apart.withAggregation h
  | order column direction options =>
    refine settle fun b' h => ?_
    obtain ⟨order, -, h⟩ := bind_eq_ok.mp h
    obtain rfl := pure_eq_ok.mp h
    exact apart.orders b _

theorem attach (apart : Apart f) (b : Builder) (key type args : Value) (sub : Ref) :
    f (Edit.settle b (FluentCall.attach b key type args sub)).2 = f b := by
  refine settle fun b' h => ?_
  obtain ⟨a, -, h⟩ := bind_eq_ok.mp h
  exact apart.withAggregation h

end Apart

theorem index_keyed {store : Store} {id : Value} (h : b.keyed store id = .ok b') :
    b'.index = b.index := by
  obtain ⟨clauses, -, h⟩ := bind_eq_ok.mp h
  obtain rfl := pure_eq_ok.mp h
  rw [apart_index.place]
  rfl

end Builder

end DocumentSearch
