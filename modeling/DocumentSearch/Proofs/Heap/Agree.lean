import DocumentSearch.Proofs.Heap.Change
import DocumentSearch.Proofs.Heap.Look

/-!
# Stores that agree on some builders

What is done with a builder goes the same way in two stores that agree on all builders that it looks
at: on its own, on those that are handed over with it and, where a request is written, on those that
it leads to.
-/
namespace DocumentSearch

open Outcome

namespace Store

/-- Stores of one size with the same builders at some places. -/
structure Agree (P : Ref → Prop) (s t : Store) : Prop where
  size : s.size = t.size
  same : ∀ r, P r → s.get r = t.get r

def Closed (P : Ref → Prop) (s : Store) : Prop := ∀ r, P r → ∀ o ∈ (s.get r).refs, P o

theorem set_of_unknown {s : Store} {ref : Ref} (b : Builder) (unknown : s.size ≤ ref.index) :
    s.set ref b = s := by
  rw [set, List.set_eq_of_length_le unknown]

namespace Agree

variable {P Q : Ref → Prop} {s t : Store} {ref : Ref}

theorem refl (P : Ref → Prop) (s : Store) : s.Agree P s := ⟨rfl, fun _ _ => rfl⟩

theorem imp (h : s.Agree Q t) (wider : ∀ r, P r → Q r) : s.Agree P t :=
  ⟨h.size, fun r inside => h.same r (wider r inside)⟩

theorem set (h : s.Agree P t) (ref : Ref) (b : Builder) : (s.set ref b).Agree P (t.set ref b) := by
  by_cases known : ref.index < s.size
  · refine ⟨by rw [size_set, size_set, h.size], fun r inside => ?_⟩
    by_cases own : r = ref
    · subst own
      rw [get_set_self s r b known, get_set_self t r b (h.size ▸ known)]
    · rw [get_set_of_ne s b own, get_set_of_ne t b own, h.same r inside]
  · have unknown : s.size ≤ ref.index := Nat.le_of_not_lt known
    rwa [set_of_unknown b unknown, set_of_unknown b (h.size ▸ unknown)]

theorem modify (h : s.Agree P t) (ref : Ref) (f : Builder → Builder) :
    (s.modify ref f).Agree P (t.modify ref f) where
  size := by rw [Store.modify, Store.modify, size_set, size_set, h.size]
  same r inside := by
    by_cases own : r = ref
    · subst own
      rw [Store.modify, Store.modify, h.same r inside]
      exact (h.set r _).same r inside
    · rw [Store.modify, Store.modify, get_set_of_ne s _ own, get_set_of_ne t _ own,
        h.same r inside]

theorem add_fst (h : s.Agree P t) (b : Builder) : (s.add b).1 = (t.add b).1 :=
  congrArg Ref.mk h.size

theorem add (h : s.Agree P t) (b : Builder) : (s.add b).2.Agree P (t.add b).2 := by
  refine ⟨by rw [size_add, size_add, h.size], fun r inside => ?_⟩
  by_cases known : r.index < s.size
  · rw [get_add_of_lt s b known, get_add_of_lt t b (h.size ▸ known), h.same r inside]
  · by_cases first : r = (s.add b).1
    · subst first
      rw [get_add_self, h.add_fst, get_add_self]
    · have beyond : (s.add b).2.size ≤ r.index := by
        have elsewhere : r.index ≠ s.size := fun eq => first (congrArg Ref.mk eq)
        rw [size_add]
        omega
      rw [get_of_unknown beyond, get_of_unknown]
      rwa [size_add, ← h.size, ← size_add s b]

theorem withUnknown (h : s.Agree P t) : s.Agree (fun r => P r ∨ s.size ≤ r.index) t where
  size := h.size
  same r inside := by
    rcases inside with inside | unknown
    · exact h.same r inside
    · rw [get_of_unknown unknown, get_of_unknown (h.size ▸ unknown)]

end Agree

theorem Closed.withUnknown {P : Ref → Prop} {s : Store} (closed : s.Closed P) :
    s.Closed fun r => P r ∨ s.size ≤ r.index := by
  intro r inside o named
  rcases inside with inside | unknown
  · exact .inl (closed r inside o named)
  · rw [get_of_unknown unknown] at named
    cases named

end Store

/-! ## Calls -/

namespace Criterion

variable {s t : Store}

theorem groupClauses_same {query : Value} (same : ∀ r ∈ query.builder?.toList, s.get r = t.get r)
    (connective : Value) : groupClauses s query connective = groupClauses t query connective := by
  cases query with
  | builder ref => simp only [groupClauses, same ref List.mem_cons_self]
  | _ => rfl

theorem columnClauses_same {column : Value}
    (same : ∀ r ∈ column.builder?.toList, s.get r = t.get r) (connective operator value : Value) :
    columnClauses s connective column operator value =
      columnClauses t connective column operator value := by
  cases column with
  | builder ref => exact groupClauses_same same connective
  | _ => rfl

theorem comparisonClauses_same {column : Value} (agree : s.Agree (· ∈ column.columnRefs) t)
    (self : Ref) (operator value : Option Value) (connective : Value) :
    comparisonClauses s self column operator value connective =
      comparisonClauses t self column operator value connective := by
  unfold comparisonClauses
  split
  · exact groupClauses_same (fun r own => agree.same r (List.mem_append_left _ own)) connective
  · rename_i column _ _ entries _ table
    refine foldlM_same (fun placed p mem => ?_) []
    have grown := agree.modify self (·.place placed)
    rw [entryClauses, entryClauses, columnClauses_same fun r named => grown.same r ?_]
    rw [Value.columnRefs_of_map? table]
    exact List.mem_flatMap.mpr ⟨p, mem, named⟩
  · rfl

/-- Which clauses a criterion stands for depends on the builders that are handed over with it
alone. -/
theorem clauses_same (criterion : Criterion) (agree : s.Agree (· ∈ criterion.handed) t)
    (self : Ref) : criterion.clauses s self = criterion.clauses t self := by
  cases criterion with
  | comparison column operator value connective =>
    exact comparisonClauses_same agree self operator value connective
  | group query connective => exact groupClauses_same agree.same connective
  | _ => rfl

end Criterion

namespace Edit

variable {s t : Store}

theorem clausesOf_same {kind : Value} {arguments : Arguments Value}
    (agree : s.Agree (· ∈ criterionRefs (criterionOf kind arguments)) t) (self : Ref) :
    Builder.clausesOf s self kind arguments = Builder.clausesOf t self kind arguments := by
  have read : ∀ store, Builder.clausesOf store self kind arguments =
      criterionOf kind arguments >>= fun c => c.clauses store self := fun store => by
    rw [Builder.clausesOf, criterionOf, bind_assoc]
  rw [read, read]
  generalize criterionOf kind arguments = criterion at agree
  cases criterion with
  | error e => rfl
  | ok c => exact c.clauses_same agree self

theorem apply_same {edit : Edit} (agree : s.Agree (· ∈ edit.handed) t) (self : Ref) (b : Builder) :
    edit.apply s self b = edit.apply t self b := by
  cases edit with
  | criterion c => simp only [apply, c.clauses_same agree]
  | withOptions kind arguments options =>
    simp only [apply, Builder.withClauseOptions, clausesOf_same agree]
  | filter kind arguments bucket => simp only [apply, Builder.filtered, clausesOf_same agree]
  | _ => rfl

end Edit

namespace FluentCall

variable {P : Ref → Prop}

mutual

theorem perform_agree {s t : Store} {ref : Ref} (agree : s.Agree P t) (own : P ref)
    (later : ∀ r : Ref, s.size ≤ r.index → P r) :
    ∀ call : FluentCall, (∀ r ∈ call.handed, P r) →
      (call.perform s ref).1 = (call.perform t ref).1 ∧
        (call.perform s ref).2.Agree P (call.perform t ref).2
  | .edit e, handed => by
    have given : s.Agree (· ∈ e.handed) t := agree.imp fun r mem =>
      handed r (by rwa [FluentCall.handed])
    rw [perform_edit, perform_edit, ← agree.same ref own, Edit.apply_same given]
    exact ⟨rfl, agree.set ref _⟩
  | .preset key type args calls, handed => by
    have size := Store.size_add s (.blank (s.get ref).keyName)
    have inside : P (s.add (.blank (s.get ref).keyName)).1 := later _ (Nat.le_refl _)
    have filled := performAll_agree (agree.add (.blank (s.get ref).keyName)) inside
      (fun r unknown => later r (by omega)) calls fun r mem =>
        handed r (by rw [FluentCall.handed]; exact List.mem_append_right _ mem)
    rw [perform, perform, ← agree.same ref own]
    dsimp only
    rw [← agree.add_fst]
    revert filled
    generalize performAll (s.add (.blank (s.get ref).keyName)).2 _ calls = here
    generalize performAll (t.add (.blank (s.get ref).keyName)).2 _ calls = there
    obtain ⟨result, here⟩ := here
    obtain ⟨_, there⟩ := there
    rintro ⟨rfl, agree⟩
    cases result with
    | error e => exact ⟨rfl, agree⟩
    | ok _ =>
      dsimp only
      rw [← agree.same ref own]
      exact ⟨rfl, agree.set ref _⟩

theorem performAll_agree {s t : Store} {ref : Ref} (agree : s.Agree P t) (own : P ref)
    (later : ∀ r : Ref, s.size ≤ r.index → P r) :
    ∀ calls : List FluentCall, (∀ r ∈ handedAll calls, P r) →
      (performAll s ref calls).1 = (performAll t ref calls).1 ∧
        (performAll s ref calls).2.Agree P (performAll t ref calls).2
  | [], _ => by
    rw [performAll, performAll]
    exact ⟨rfl, agree⟩
  | call :: rest, handed => by
    have size := (call.perform_spares s ref).size
    have first := perform_agree agree own later call fun r mem =>
      handed r (by rw [handedAll]; exact List.mem_append_left _ mem)
    rw [performAll, performAll]
    generalize call.perform s ref = here at first size ⊢
    generalize call.perform t ref = there at first ⊢
    obtain ⟨result, here⟩ := here
    obtain ⟨_, there⟩ := there
    obtain ⟨rfl, agree⟩ := first
    cases result with
    | error e => exact ⟨rfl, agree⟩
    | ok _ =>
      exact performAll_agree agree own (fun r unknown => later r (Nat.le_trans size unknown)) rest
        fun r mem => handed r (by rw [handedAll]; exact List.mem_append_right _ mem)

end

end FluentCall

/-! ## Requests -/

namespace Dialect

variable (d : Dialect) {P : Ref → Prop} {s t : Store}

theorem conditionsWithin_agree (agree : s.Agree P t) (closed : s.Closed P) (depth : Nat)
    {b : Builder} (inside : ∀ r ∈ b.refs, P r) :
    d.conditionsWithin s depth b = d.conditionsWithin t depth b := by
  induction depth generalizing b with
  | zero => rfl
  | succ depth ih =>
    refine bucketFragments_same fun r named => ?_
    rw [← agree.same r (inside r named)]
    exact ih (closed r (inside r named))

theorem conditions_agree (agree : s.Agree P t) (closed : s.Closed P) {b : Builder}
    (inside : ∀ r ∈ b.refs, P r) : d.conditions s b = d.conditions t b := by
  rw [conditions, conditions, agree.size]
  exact d.conditionsWithin_agree agree closed t.size inside

theorem aggregationsWith_agree (agree : s.Agree P t) (closed : s.Closed P) {b : Builder}
    (inside : ∀ r ∈ b.refs, P r) {within within' : Builder → Except Error Entries}
    (inner : ∀ r ∈ b.refs, within (s.get r) = within' (t.get r)) :
    d.aggregationsWith s within b = d.aggregationsWith t within' b := by
  refine aggregationsWith_same fun a mem => aggregationWith_same (fun r args => ?_)
    (fun r sub => ?_) fun r sub => inner r (Builder.mem_refs_of_sub mem sub)
  · have named := inside r (Builder.mem_refs_of_args mem args)
    rw [← agree.same r named]
    exact d.conditions_agree agree closed (closed r named)
  · rw [agree.same r (inside r (Builder.mem_refs_of_sub mem sub))]

theorem aggregationsWithin_agree (agree : s.Agree P t) (closed : s.Closed P) (depth : Nat)
    {b : Builder} (inside : ∀ r ∈ b.refs, P r) :
    d.aggregationsWithin s depth b = d.aggregationsWithin t depth b := by
  induction depth generalizing b with
  | zero => exact d.aggregationsWith_agree agree closed inside fun _ _ => rfl
  | succ depth ih =>
    refine d.aggregationsWith_agree agree closed inside fun r named => ?_
    rw [← agree.same r (inside r named)]
    exact ih (closed r (inside r named))

theorem searchRequest_agree (agree : s.Agree P t) (closed : s.Closed P) {b : Builder}
    (inside : ∀ r ∈ b.refs, P r) : d.searchRequest s b = d.searchRequest t b := by
  have conditions := d.conditions_agree agree closed inside
  have aggregations : d.aggregations s b = d.aggregations t b := by
    rw [Dialect.aggregations, Dialect.aggregations, agree.size]
    exact d.aggregationsWithin_agree agree closed t.size inside
  unfold searchRequest searchBody
  rw [conditions, aggregations]

end Dialect

/-! ## Actions -/

namespace Builder

variable {d : Dialect} {s t : Store} {b : Builder}

theorem results_same (same : d.searchRequest s b = d.searchRequest t b) (line : Line) :
    b.results d s line = b.results d t line := by
  unfold results fetch
  rw [same]

variable (same : ∀ b' : Builder, b'.refs ⊆ b.refs → d.searchRequest s b' = d.searchRequest t b')
include same

theorem read_same (columns : Value) (line : Line) :
    b.read d s columns line = b.read d t columns line := by
  unfold read
  split
  · rfl
  · rename_i chosen _
    rw [results_same (same { b with columns := chosen } (List.Subset.refl _))]

theorem readFirst_same (columns : Value) (line : Line) :
    b.readFirst d s columns line = b.readFirst d t columns line := by
  unfold readFirst
  rw [read_same (b := { b with limit := some (.int 1) }) same]

theorem paginate_same (page perPage : Value) (line : Line) :
    b.paginate d s page perPage line = b.paginate d t page perPage line := by
  have turned : GrowsBy (fun _ => False) b (b.withPage page perPage).2 :=
    Edit.grows_withPage page perPage
  unfold paginate
  split
  · rfl
  · rename_i after done
    rw [done] at turned
    have refs : after.refs ⊆ b.refs := fun r named => (turned.refs_of named).resolve_right id
    rw [read_same fun b' fewer => same b' (List.Subset.trans fewer refs)]

theorem summaryRead_same (line : Line) (f : Summary → Value) :
    b.summaryRead d s line f = b.summaryRead d t line f := by
  unfold summaryRead
  rw [results_same (same b (List.Subset.refl _))]

end Builder

namespace Action

variable {P : Ref → Prop} {s t : Store} {ref : Ref}

theorem adding_agree (agree : s.Agree P t) (line : Line) (outcome : Except Error Builder) :
    (adding ⟨s, line⟩ outcome).2.store.Agree P (adding ⟨t, line⟩ outcome).2.store := by
  cases outcome with
  | error e => exact agree
  | ok b => exact agree.add b

/-- An action on one of the builders that two stores agree on, with the same connection, leaves
stores that agree on them. -/
theorem perform_agree (d : Dialect) (agree : s.Agree P t) (closed : s.Closed P) (own : P ref)
    (later : ∀ r : Ref, s.size ≤ r.index → P r) (line : Line) {action : Action}
    (handed : ∀ r ∈ action.handed, P r) :
    (action.perform d ⟨s, line⟩ ref).2.store.Agree P (action.perform d ⟨t, line⟩ ref).2.store := by
  have same : ∀ b' : Builder, b'.refs ⊆ (s.get ref).refs →
      d.searchRequest s b' = d.searchRequest t b' := fun b' fewer =>
    d.searchRequest_agree agree closed fun r named => closed ref own r (fewer named)
  cases action with
  | fluent call => exact (call.perform_agree agree own later handed).2
  | clone | cloneWithout names | newQuery =>
    dsimp only [perform]
    rw [← agree.same ref own]
    exact adding_agree agree line _
  | read columns =>
    dsimp only [perform, reading]
    rw [← agree.same ref own, Builder.read_same same]
    exact agree.set ref _
  | readFirst columns =>
    dsimp only [perform, reading]
    rw [← agree.same ref own, Builder.readFirst_same same]
    exact agree.set ref _
  | paginate perPage page =>
    dsimp only [perform, reading]
    rw [← agree.same ref own, Builder.paginate_same same]
    exact agree.set ref _
  | aggregationResults | duration | rawReply =>
    dsimp only [perform, reading]
    rw [← agree.same ref own, Builder.summaryRead_same same]
    exact agree.set ref _
  | searchRequest | openCursor | count | insert | update | updateByQuery | delete | routing
  | parentId | option => exact agree

end Action

end DocumentSearch
