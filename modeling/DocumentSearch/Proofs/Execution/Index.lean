import DocumentSearch.Proofs.Execution.Edit

/-!
# Where the index of a builder comes from

A builder has the index that it was last given. Copies take it over, and a builder that was given
none has none, so every index in a store is null or was stated by some call.
-/
namespace DocumentSearch

open Outcome

namespace Builder

variable (d : Dialect) (store : Store)

/-- To take documents changes nothing but what is remembered. -/
theorem results_builder (b : Builder) (line : Line) :
    ∃ cache summary,
      (b.results d store line).2.1 = { b with cache := cache, summary := summary } := by
  unfold results
  split
  · exact ⟨_, _, rfl⟩
  · unfold fetch
    split
    · exact ⟨_, _, rfl⟩
    · split
      · exact ⟨_, _, rfl⟩
      · split
        · exact ⟨_, _, rfl⟩
        · split <;> exact ⟨_, _, rfl⟩

theorem index_results (b : Builder) (line : Line) :
    (b.results d store line).2.1.index = b.index := by
  obtain ⟨cache, summary, same⟩ := results_builder d store b line
  rw [same]

theorem index_read (b : Builder) (columns : Value) (line : Line) :
    (b.read d store columns line).2.1.index = b.index := by
  unfold read
  split
  · rfl
  · exact index_results d store _ line

theorem index_readFirst (b : Builder) (columns : Value) (line : Line) :
    (b.readFirst d store columns line).2.1.index = b.index := by
  have read := index_read d store { b with limit := some (.int 1) } columns line
  unfold readFirst
  split <;> rename_i done <;> rwa [done] at read

theorem index_paginate (b : Builder) (page perPage : Value) (line : Line) :
    (b.paginate d store page perPage line).2.1.index = b.index := by
  have turned := apart_index.withPage b page perPage
  unfold paginate
  split
  · rename_i done
    rwa [done] at turned
  · rename_i b' done
    rw [done] at turned
    have read := index_read d store b' .null line
    split <;> rename_i done <;> rw [done] at read <;> exact read.trans turned

theorem index_summaryRead (b : Builder) (line : Line) (f : Summary → Value) :
    (b.summaryRead d store line f).2.1.index = b.index := by
  have read := index_results d store b line
  unfold summaryRead
  split <;> rename_i done <;> rwa [done] at read

end Builder

def Builder.Within (stated : List Value) (b : Builder) : Prop := b.index = .null ∨ b.index ∈ stated

theorem Builder.Within.of_index {stated : List Value} {b b' : Builder} (h : b.Within stated)
    (same : b'.index = b.index) : b'.Within stated := by
  rwa [Within, same]

namespace Store

variable {store : Store} {stated : List Value} {b : Builder}

def Within (stated : List Value) (store : Store) : Prop := ∀ b ∈ store.builders, b.Within stated

theorem Within.get (h : store.Within stated) (ref : Ref) : (store.get ref).Within stated := by
  unfold Store.get
  cases found : store.builders[ref.index]? with
  | none => exact .inl rfl
  | some b => exact h b (List.mem_of_getElem? found)

theorem Within.add (h : store.Within stated) (own : b.Within stated) :
    (store.add b).2.Within stated :=
  List.forall_mem_append.mpr ⟨h, List.forall_mem_singleton.mpr own⟩

theorem Within.set (h : store.Within stated) (ref : Ref) (own : b.Within stated) :
    (store.set ref b).Within stated := by
  intro other mem
  rcases List.mem_or_eq_of_mem_set mem with earlier | rfl
  · exact h other earlier
  · exact own

end Store

namespace FluentCall

variable {stated : List Value}

def indicesOf : Edit → List Value
  | .index v => [v]
  | _ => []

mutual

/-- The indices that a call states, for its builder or for one inside an aggregation. -/
def indices : FluentCall → List Value
  | edit e => indicesOf e
  | preset _ _ _ calls => indicesAll calls
termination_by structural call => call

def indicesAll : List FluentCall → List Value
  | [] => []
  | call :: rest => call.indices ++ indicesAll rest
termination_by structural calls => calls

end

theorem within_apply {b : Builder} (h : b.Within stated) (store : Store) (self : Ref) {e : Edit}
    (states : indicesOf e ⊆ stated) : (e.apply store self b).2.Within stated := by
  by_cases named : ∃ v, e = .index v
  · obtain ⟨v, rfl⟩ := named
    exact .inr (states (List.mem_singleton_self v))
  · exact h.of_index (Builder.apart_index.apply store self b e fun v eq => named ⟨v, eq⟩)

mutual

theorem perform_within (store : Store) (ref : Ref) (h : store.Within stated) :
    ∀ call : FluentCall, call.indices ⊆ stated → (call.perform store ref).2.Within stated
  | .edit e, states => h.set ref (within_apply (h.get ref) store ref states)
  | .preset key type args calls, states => by
    have blank : (Builder.blank (store.get ref).keyName).Within stated := .inl rfl
    have filled := performAll_within (store.add (.blank (store.get ref).keyName)).2
      (store.add (.blank (store.get ref).keyName)).1 (h.add blank) calls states
    rw [perform]
    dsimp only
    split
    · rename_i refused
      rwa [refused] at filled
    · rename_i after done
      rw [done] at filled
      exact filled.set ref ((filled.get ref).of_index (Builder.apart_index.attach _ key type args _))

theorem performAll_within (store : Store) (ref : Ref) (h : store.Within stated) :
    ∀ calls : List FluentCall, indicesAll calls ⊆ stated →
      (performAll store ref calls).2.Within stated
  | [], _ => by
    rw [performAll]
    exact h
  | call :: rest, states => by
    rw [indicesAll, List.append_subset] at states
    have first := perform_within store ref h call states.1
    rw [performAll]
    split
    · rename_i after done
      rw [done] at first
      exact performAll_within after ref first rest states.2
    · rename_i refused
      rwa [refused] at first

end

end FluentCall

namespace Action

variable {stated : List Value}

def indices : Action → List Value
  | fluent call => call.indices
  | _ => []

theorem within_adding {w : Workspace} {outcome : Except Error Builder}
    (h : w.store.Within stated) (own : ∀ b, outcome = .ok b → b.Within stated) :
    (adding w outcome).2.store.Within stated := by
  cases outcome with
  | error e => exact h
  | ok b => exact h.add (own b rfl)

theorem perform_within (d : Dialect) (w : Workspace) (ref : Ref) (h : w.store.Within stated)
    {action : Action} (states : action.indices ⊆ stated) :
    (action.perform d w ref).2.store.Within stated := by
  have read : ∀ b : Builder, b.index = (w.store.get ref).index →
      (w.store.set ref b).Within stated := fun b same => h.set ref ((h.get ref).of_index same)
  cases action with
  | fluent call => exact call.perform_within w.store ref h states
  | clone =>
    refine within_adding h fun b copied => ?_
    cases copied
    exact (h.get ref).of_index rfl
  | cloneWithout names =>
    refine within_adding h fun b copied => ?_
    obtain ⟨names, -, copied⟩ := bind_eq_ok.mp copied
    exact (h.get ref).of_index (Builder.apart_index.cloneWithout copied)
  | newQuery =>
    refine within_adding h fun b made => ?_
    cases made
    exact .inl rfl
  | read columns => exact read _ (Builder.index_read d w.store _ columns w.line)
  | readFirst columns => exact read _ (Builder.index_readFirst d w.store _ columns w.line)
  | paginate perPage page => exact read _ (Builder.index_paginate d w.store _ page perPage w.line)
  | aggregationResults | duration | rawReply =>
    exact read _ (Builder.index_summaryRead d w.store _ w.line _)
  | searchRequest | openCursor | count | insert | update | updateByQuery | delete | routing
  | parentId | option => exact h

end Action

end DocumentSearch
