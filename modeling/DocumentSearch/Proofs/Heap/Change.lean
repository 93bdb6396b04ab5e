import DocumentSearch.Proofs.Fluent.Refusal
import DocumentSearch.Proofs.Execution.Index
import DocumentSearch.Proofs.Heap.Growth

/-!
# What an action changes in a store

An action changes the builder that it is for and makes new ones. It takes no clause and no
aggregation away, and what it adds refers to builders that were handed over with it, to those that
the builder referred to already, and to those that it makes.
-/
namespace DocumentSearch

open Builder Outcome

theorem Builder.refs_blank (keyName : Value) : (Builder.blank keyName).refs = [] := rfl

namespace Store

/-- A builder that is in a store and was not in an earlier one. -/
def Made (s t : Store) (r : Ref) : Prop := s.size ≤ r.index ∧ r.index < t.size

/-- A store later on, after something was done with the builder at a place. Of the builders that
were made, each refers only to those that were made after it. -/
structure GrowsAt (ref : Ref) (P : Ref → Prop) (s t : Store) : Prop where
  spares : s.Spares ref t
  own : GrowsBy (fun r => P r ∨ s.Made t r) (s.get ref) (t.get ref)
  made : ∀ o, s.Made t o → ∀ r ∈ (t.get o).refs, P r ∨ s.Made t r ∧ o.index < r.index

namespace GrowsAt

variable {ref : Ref} {P Q : Ref → Prop} {s t u : Store} {b : Builder}

theorem refl (ref : Ref) (P : Ref → Prop) (s : Store) : s.GrowsAt ref P s where
  spares := .refl ref s
  own := .refl _ _
  made o new := by
    obtain ⟨unknown, known⟩ := new
    omega

theorem imp (h : s.GrowsAt ref P t) (wider : ∀ r, P r → Q r) : s.GrowsAt ref Q t where
  spares := h.spares
  own := h.own.imp fun r => Or.imp_left (wider r)
  made o new r named := (h.made o new r named).imp_left (wider r)

theorem trans (known : ref.index < s.size) (h : s.GrowsAt ref P t) (k : t.GrowsAt ref P u) :
    s.GrowsAt ref P u := by
  have first : ∀ r, P r ∨ s.Made t r → P r ∨ s.Made u r := fun r =>
    Or.imp_right fun new => ⟨new.1, Nat.lt_of_lt_of_le new.2 k.spares.size⟩
  have second : ∀ r, P r ∨ t.Made u r → P r ∨ s.Made u r := fun r =>
    Or.imp_right fun new => ⟨Nat.le_trans h.spares.size new.1, new.2⟩
  refine ⟨h.spares.trans k.spares, (h.own.imp first).trans (k.own.imp second), ?_⟩
  intro o new r named
  by_cases earlier : o.index < t.size
  · have besides : o ≠ ref := by
      rintro rfl
      exact absurd known (by have := new.1; omega)
    rw [k.spares.other o earlier besides] at named
    refine (h.made o ⟨new.1, earlier⟩ r named).imp_right fun ⟨made, above⟩ => ?_
    exact ⟨⟨made.1, Nat.lt_of_lt_of_le made.2 k.spares.size⟩, above⟩
  · refine (k.made o ⟨by omega, new.2⟩ r named).imp_right fun ⟨made, above⟩ => ?_
    exact ⟨⟨Nat.le_trans h.spares.size made.1, made.2⟩, above⟩

/-- In the end the builder may come to refer to what was made along the way. -/
theorem then_set (known : ref.index < s.size) (h : s.GrowsAt ref P t)
    (grows : GrowsBy (fun r => P r ∨ s.Made t r) (t.get ref) b) :
    s.GrowsAt ref P (t.set ref b) := by
  have there : ref.index < t.size := Nat.lt_of_lt_of_le known h.spares.size
  have same : ∀ r, s.Made (t.set ref b) r ↔ s.Made t r := fun r => by rw [Made, Made, size_set]
  refine ⟨h.spares.trans (.set ref t b), ?_, fun o new r named => ?_⟩
  · rw [get_set_self t ref b there]
    exact (h.own.trans grows).imp fun r => Or.imp_right (same r).mpr
  · have besides : o ≠ ref := by
      rintro rfl
      exact absurd known (by have := new.1; omega)
    rw [get_set_of_ne t b besides] at named
    exact (h.made o ((same o).mp new) r named).imp_right (And.imp_left (same r).mpr)

theorem set (known : ref.index < s.size) (grows : GrowsBy P (s.get ref) b) :
    s.GrowsAt ref P (s.set ref b) where
  spares := .set ref s b
  own := by
    rw [get_set_self s ref b known]
    exact grows.imp fun r => .inl
  made o new := by
    obtain ⟨unknown, known⟩ := new
    rw [size_set] at known
    omega

theorem of_add (known : ref.index < s.size) (blank : ∀ r ∈ b.refs, P r)
    (h : (s.add b).2.GrowsAt (s.add b).1 P t) : s.GrowsAt ref P t := by
  have later : ∀ r, (s.add b).2.Made t r → s.Made t r ∧ s.size < r.index := fun r new => by
    obtain ⟨unknown, known⟩ := new
    rw [size_add] at unknown
    exact ⟨⟨by omega, known⟩, by omega⟩
  refine ⟨h.spares.of_add ref, ?_, fun o new r named => ?_⟩
  · rw [h.spares.get_of_add known]
    exact .refl _ _
  · by_cases first : o = (s.add b).1
    · subst first
      rcases h.own.refs_of named with named | new
      · rw [get_add_self] at named
        exact .inl (blank r named)
      · exact new.imp_right (later r)
    · refine (h.made o ⟨?_, new.2⟩ r named).imp_right fun ⟨made, above⟩ => ⟨(later r made).1, above⟩
      have elsewhere : o.index ≠ s.size := fun same => first (congrArg Ref.mk same)
      have unknown := new.1
      rw [size_add]
      omega

theorem add (known : ref.index < s.size) (refer : ∀ r ∈ b.refs, P r) :
    s.GrowsAt ref P (s.add b).2 := of_add known refer (.refl _ P _)

end GrowsAt

end Store

open Store

namespace FluentCall

mutual

/-- The builders that are handed over with a call, also with those inside it. -/
def handed : FluentCall → List Ref
  | edit e => e.handed
  | preset _ _ args calls => args.builder?.toList ++ handedAll calls
termination_by structural call => call

def handedAll : List FluentCall → List Ref
  | [] => []
  | call :: rest => call.handed ++ handedAll rest
termination_by structural calls => calls

end

theorem grows_attach {b : Builder} {key type args : Value} {sub : Ref} {P : Ref → Prop}
    (handed : ∀ r ∈ args.builder?.toList, P r) (inside : P sub) :
    GrowsBy P b (Edit.settle b (attach b key type args sub)).2 := by
  refine .settle (.bind fun a made => ?_)
  obtain ⟨isKey, refs⟩ := Aggregation.make_eq_ok made
  refine fun after => .withAggregation isKey fun r named => ?_
  rw [refs, Option.toList_some] at named
  rcases List.mem_append.mp named with named | last
  · exact handed r named
  · exact List.mem_singleton.mp last ▸ inside

mutual

theorem perform_grows (store : Store) (ref : Ref) (known : ref.index < store.size) :
    ∀ call : FluentCall, store.GrowsAt ref (· ∈ call.handed) (call.perform store ref).2
  | .edit e => by
    rw [perform_edit, handed]
    exact .set known (e.apply_grows store ref _)
  | .preset key type args calls => by
    have inside : (store.add (.blank (store.get ref).keyName)).1.index <
        (store.add (.blank (store.get ref).keyName)).2.size := by
      rw [size_add]
      exact Nat.lt_succ_self _
    have filled := performAll_grows _ _ inside calls
    have first : store.GrowsAt ref (· ∈ (preset key type args calls).handed)
        (performAll _ _ calls).2 :=
      .of_add known (by simp [refs_blank]) (filled.imp fun r mem => by
        rw [handed]
        exact List.mem_append_right _ mem)
    rw [perform]
    dsimp only
    split
    · rename_i e after refused
      rwa [refused] at first
    · rename_i after done
      rw [done] at first filled
      -- The builder inside is new, and only then does the aggregation refer to it.
      have sub : store.Made after (store.add (.blank (store.get ref).keyName)).1 :=
        ⟨Nat.le_refl _, Nat.lt_of_lt_of_le inside filled.spares.size⟩
      refine first.then_set known (grows_attach (fun r named => ?_) (.inr sub))
      rw [handed]
      exact .inl (List.mem_append_left _ named)

theorem performAll_grows (store : Store) (ref : Ref) (known : ref.index < store.size) :
    ∀ calls : List FluentCall,
      store.GrowsAt ref (· ∈ handedAll calls) (performAll store ref calls).2
  | [] => by
    rw [performAll]
    exact .refl ref _ store
  | call :: rest => by
    have first := (perform_grows store ref known call).imp
      (Q := (· ∈ handedAll (call :: rest))) fun r mem => by
        rw [handedAll]
        exact List.mem_append_left _ mem
    rw [performAll]
    split
    · rename_i after done
      rw [done] at first
      have there : ref.index < after.size := Nat.lt_of_lt_of_le known first.spares.size
      refine first.trans known ((performAll_grows after ref there rest).imp fun r mem => ?_)
      rw [handedAll]
      exact List.mem_append_right _ mem
    · rename_i e after refused
      rwa [refused] at first

end

end FluentCall

namespace Builder

variable {P : Ref → Prop} (d : Dialect) (store : Store) (b : Builder) (line : Line)

/-! ## Readings add nothing -/

theorem grows_results : GrowsBy P b (b.results d store line).2.1 := by
  obtain ⟨cache, summary, same⟩ := results_builder d store b line
  rw [same]
  exact .of_same (fun k => by cases k <;> rfl) rfl

theorem grows_read (columns : Value) : GrowsBy P b (b.read d store columns line).2.1 := by
  unfold read
  split
  · exact .refl P b
  · rename_i chosen _
    have asked : GrowsBy P b { b with columns := chosen } :=
      .of_same (fun k => by cases k <;> rfl) rfl
    have taken := asked.trans (grows_results d store { b with columns := chosen } line)
    exact taken.trans (.of_same (fun k => by cases k <;> rfl) rfl)

theorem grows_readFirst (columns : Value) : GrowsBy P b (b.readFirst d store columns line).2.1 := by
  have asked : GrowsBy P b { b with limit := some (.int 1) } :=
    .of_same (fun k => by cases k <;> rfl) rfl
  have read := asked.trans (grows_read d store { b with limit := some (.int 1) } line columns)
  unfold readFirst
  split <;> rename_i done <;> rwa [done] at read

theorem grows_paginate (page perPage : Value) :
    GrowsBy P b (b.paginate d store page perPage line).2.1 := by
  have turned : GrowsBy P b (b.withPage page perPage).2 := Edit.grows_withPage page perPage
  unfold paginate
  split
  · rename_i done
    rwa [done] at turned
  · rename_i b' done
    rw [done] at turned
    have read := grows_read (P := P) d store b' line .null
    split <;> rename_i done <;> rw [done] at read <;> exact turned.trans read

theorem grows_summaryRead (f : Summary → Value) :
    GrowsBy P b (b.summaryRead d store line f).2.1 := by
  have read := grows_results (P := P) d store b line
  unfold summaryRead
  split <;> rename_i done <;> rwa [done] at read

/-! ## Copies add nothing -/

/-- A builder that may lack some of the lists of another one. -/
structure Sheds (b b' : Builder) : Prop where
  bucket : ∀ k, b'.bucket k = b.bucket k ∨ b'.bucket k = []
  aggregations : b'.aggregations = b.aggregations ∨ b'.aggregations = []

namespace Sheds

variable {b b' b'' : Builder}

theorem refl (b : Builder) : Sheds b b := ⟨fun _ => .inl rfl, .inl rfl⟩

theorem trans (h : Sheds b b') (k : Sheds b' b'') : Sheds b b'' where
  bucket place := by
    rcases k.bucket place with same | none
    · rw [same]
      exact h.bucket place
    · exact .inr none
  aggregations := by
    rcases k.aggregations with same | none
    · rw [same]
      exact h.aggregations
    · exact .inr none

theorem refs_subset (h : Sheds b b') : b'.refs ⊆ b.refs := by
  intro r named
  rcases mem_refs.mp named with ⟨k, c, mem, named⟩ | ⟨a, mem, named⟩
  · rcases h.bucket k with same | none
    · exact mem_refs.mpr (.inl ⟨k, c, same ▸ mem, named⟩)
    · rw [none] at mem
      cases mem
  · rcases h.aggregations with same | none
    · exact mem_refs.mpr (.inr ⟨a, same ▸ mem, named⟩)
    · rw [none] at mem
      cases mem

theorem keyed (h : Sheds b b') (own : b.Keyed) : b'.Keyed := by
  rcases h.aggregations with same | none
  · rwa [Keyed, same]
  · rw [Keyed, none]
    exact ⟨List.nodup_nil, List.forall_mem_nil _⟩

theorem resetOne {name : Value} (h : b.resetOne name = .ok b') : Sheds b b' := by
  obtain ⟨name, -, h⟩ := bind_eq_ok.mp h
  split at h
  · rename_i found
    obtain rfl := pure_eq_ok.mp h
    obtain ⟨field, -, reset⟩ := Option.bind_eq_some_iff.mp found
    unfold without? at reset
    split at reset <;> cases reset
    all_goals exact ⟨fun k => by cases k <;> simp [Builder.bucket], by simp⟩
  · cases h

theorem cloneWithout {names : List Value} (h : b.cloneWithout names = .ok b') : Sheds b b' := by
  have copied : Sheds b b.clone := ⟨fun k => .inl (by cases k <;> rfl), .inl rfl⟩
  refine copied.trans ?_
  unfold Builder.cloneWithout at h
  generalize b.clone = copy at h ⊢
  induction names generalizing copy with
  | nil =>
    obtain rfl := pure_eq_ok.mp h
    exact .refl copy
  | cons name rest ih =>
    rw [List.foldlM_cons] at h
    obtain ⟨reset, done, h⟩ := bind_eq_ok.mp h
    exact (resetOne done).trans (ih reset h)

end Sheds

end Builder

namespace Action

def handed : Action → List Ref
  | fluent call => call.handed
  | _ => []

variable (d : Dialect) (w : Workspace) {ref : Ref} {P : Ref → Prop}

theorem spares_adding (ref : Ref) (outcome : Except Error Builder) :
    w.store.Spares ref (adding w outcome).2.store := by
  cases outcome with
  | error e => exact .refl ref w.store
  | ok b => exact (Spares.refl _ _).of_add ref

theorem perform_spares (ref : Ref) (action : Action) :
    w.store.Spares ref (action.perform d w ref).2.store := by
  cases action with
  | fluent call => exact call.perform_spares w.store ref
  | clone | cloneWithout names | newQuery => exact spares_adding w ref _
  | read | readFirst | paginate | aggregationResults | duration | rawReply =>
    exact .set ref w.store _
  | searchRequest | openCursor | count | insert | update | updateByQuery | delete | routing
  | parentId | option => exact .refl ref w.store

theorem grows_adding (known : ref.index < w.store.size) {outcome : Except Error Builder}
    (refer : ∀ b, outcome = .ok b → ∀ r ∈ b.refs, P r) :
    w.store.GrowsAt ref P (adding w outcome).2.store := by
  cases outcome with
  | error e => exact .refl ref P w.store
  | ok b => exact .add known (refer b rfl)

theorem perform_grows (known : ref.index < w.store.size) (action : Action) :
    w.store.GrowsAt ref (fun r => r ∈ action.handed ∨ r ∈ (w.store.get ref).refs)
      (action.perform d w ref).2.store := by
  cases action with
  | fluent call => exact (call.perform_grows w.store ref known).imp fun r => .inl
  | clone =>
    refine grows_adding w known fun b copied r named => ?_
    cases copied
    exact .inr named
  | cloneWithout names =>
    refine grows_adding w known fun b copied r named => ?_
    obtain ⟨names, -, copied⟩ := bind_eq_ok.mp copied
    exact .inr ((Sheds.cloneWithout copied).refs_subset named)
  | newQuery =>
    refine grows_adding w known fun b made r named => ?_
    cases made
    cases named
  | read columns => exact .set known (grows_read ..)
  | readFirst columns => exact .set known (grows_readFirst ..)
  | paginate perPage page => exact .set known (grows_paginate ..)
  | aggregationResults | duration | rawReply => exact .set known (grows_summaryRead ..)
  | searchRequest | openCursor | count | insert | update | updateByQuery | delete | routing
  | parentId | option => exact .refl ref _ w.store

end Action

end DocumentSearch
