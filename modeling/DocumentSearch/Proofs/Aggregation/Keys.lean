import DocumentSearch.Proofs.Aggregation.Report
import DocumentSearch.Proofs.Heap.Run

/-!
# Keys of aggregations in the course of a run

However aggregations are added, by name or ready made, to a builder, to a copy of it or to a builder
that is inside an aggregation already, no builder ever has two with one key. So every report has
each aggregation of its builder once, at every level.
-/
namespace DocumentSearch

open Builder Outcome

namespace Store

/-- Every builder has its aggregations under keys of their own. -/
def Keyed (store : Store) : Prop := ∀ b ∈ store.builders, b.Keyed

variable {store : Store} {b : Builder}

theorem Keyed.get (h : store.Keyed) (ref : Ref) : (store.get ref).Keyed := by
  unfold Store.get
  cases found : store.builders[ref.index]? with
  | none => exact ⟨List.nodup_nil, nofun⟩
  | some b => exact h b (List.mem_of_getElem? found)

theorem Keyed.add (h : store.Keyed) (own : b.Keyed) : (store.add b).2.Keyed :=
  List.forall_mem_append.mpr ⟨h, List.forall_mem_singleton.mpr own⟩

theorem Keyed.set (h : store.Keyed) (ref : Ref) (own : b.Keyed) : (store.set ref b).Keyed := by
  intro other mem
  rcases List.mem_or_eq_of_mem_set mem with earlier | rfl
  · exact h other earlier
  · exact own

theorem Keyed.set_grown {P : Ref → Prop} {ref : Ref} (h : store.Keyed)
    (grows : GrowsBy P (store.get ref) b) : (store.set ref b).Keyed :=
  h.set ref (grows.keyed (h.get ref))

end Store

theorem Builder.keyed_blank (keyName : Value) : (Builder.blank keyName).Keyed :=
  ⟨List.nodup_nil, nofun⟩

namespace FluentCall

mutual

theorem perform_keyed (store : Store) (ref : Ref) (h : store.Keyed) :
    ∀ call : FluentCall, (call.perform store ref).2.Keyed
  | .edit e => h.set_grown (e.apply_grows store ref _)
  | .preset key type args calls => by
    have filled := performAll_keyed _ (store.add (.blank (store.get ref).keyName)).1
      (h.add (keyed_blank (store.get ref).keyName)) calls
    rw [perform]
    dsimp only
    split
    · rename_i refused
      rwa [refused] at filled
    · rename_i after done
      rw [done] at filled
      exact filled.set_grown (grows_attach (P := fun _ => True) (fun _ _ => trivial) trivial)

theorem performAll_keyed (store : Store) (ref : Ref) (h : store.Keyed) :
    ∀ calls : List FluentCall, (performAll store ref calls).2.Keyed
  | [] => by
    rw [performAll]
    exact h
  | call :: rest => by
    have first := perform_keyed store ref h call
    rw [performAll]
    split
    · rename_i after done
      rw [done] at first
      exact performAll_keyed after ref first rest
    · rename_i refused
      rwa [refused] at first

end

def Aggregates : FluentCall → Prop
  | edit (.aggregation ..) => True
  | preset .. => True
  | _ => False

theorem aggregation_refused {store after : Store} {ref : Ref} {call : FluentCall} {e : Error}
    (known : ref.index < store.size) (adds : call.Aggregates)
    (refused : call.perform store ref = (.error e, after)) : after.get ref = store.get ref := by
  cases call with
  | preset key type args calls => exact preset_refused known refused
  | edit edit =>
    rw [perform_edit] at refused
    obtain ⟨result, rfl⟩ := Prod.mk.inj refused
    rw [Store.get_set_self store ref _ known]
    cases edit with
    | aggregation key type args sub => exact Edit.of_settle (Prod.ext result rfl)
    | _ => cases adds

end FluentCall

namespace Action

theorem keyed_adding {w : Workspace} {outcome : Except Error Builder} (h : w.store.Keyed)
    (own : ∀ b, outcome = .ok b → b.Keyed) : (adding w outcome).2.store.Keyed := by
  cases outcome with
  | error e => exact h
  | ok b => exact h.add (own b rfl)

theorem perform_keyed (d : Dialect) (w : Workspace) (ref : Ref) (h : w.store.Keyed)
    (action : Action) : (action.perform d w ref).2.store.Keyed := by
  cases action with
  | fluent call => exact call.perform_keyed w.store ref h
  | clone =>
    refine keyed_adding h fun b copied => ?_
    cases copied
    exact h.get ref
  | cloneWithout names =>
    refine keyed_adding h fun b copied => ?_
    obtain ⟨names, -, copied⟩ := bind_eq_ok.mp copied
    exact (Sheds.cloneWithout copied).keyed (h.get ref)
  | newQuery =>
    refine keyed_adding h fun b made => ?_
    cases made
    exact keyed_blank _
  | read columns => exact h.set_grown (grows_read (P := fun _ => True) ..)
  | readFirst columns => exact h.set_grown (grows_readFirst (P := fun _ => True) ..)
  | paginate perPage page => exact h.set_grown (grows_paginate (P := fun _ => True) ..)
  | aggregationResults | duration | rawReply =>
    exact h.set_grown (grows_summaryRead (P := fun _ => True) ..)
  | searchRequest | openCursor | count | insert | update | updateByQuery | delete | routing
  | parentId | option => exact h

end Action

namespace Desk

variable {d : Dialect} {desk : Desk}

theorem keyed_perform (h : desk.workspace.store.Keyed) (d : Dialect) (operation : Operation) :
    (operation.perform d desk).workspace.store.Keyed := by
  rcases operation.store_cases d desk with ⟨target, action, -, same⟩ | ⟨-, ⟨index, same⟩ | same⟩
  · rw [same]
    exact action.perform_keyed d desk.workspace target h
  · rw [same]
    exact h.add (keyed_blank "id")
  · rwa [same]

theorem keyed_run (h : desk.workspace.store.Keyed) (d : Dialect) (operations : List Operation) :
    (desk.run d operations).workspace.store.Keyed := by
  induction operations generalizing desk with
  | nil => exact h
  | cons operation rest ih => exact ih (keyed_perform h d operation)

/-- After any run, every builder has its aggregations under keys of their own, and a report has one
entry for each of them, in order, under its key. In the entry the aggregation stands under its type,
and beside it, if the builder inside has aggregations by then, the report of that builder. A call
for an aggregation that is refused leaves the builder as it was. -/
theorem run_reports (d : Dialect) (c : Connection) (operations : List Operation) :
    let store := ((Desk.opened c).run d operations).workspace.store
    (∀ ref, (store.get ref).Keyed) ∧
    (∀ ref entries, d.aggregations store (store.get ref) = .ok entries →
      List.Forall₂ (fun a entry => a.Reported d store entry) (store.get ref).aggregations
        entries) ∧
    ∀ (ref : Ref) (call : FluentCall) e after, ref.index < store.size → call.Aggregates →
      call.perform store ref = (.error e, after) → after.get ref = store.get ref := by
  intro store
  have fresh : (Desk.opened c).workspace.store.Keyed := fun _ mem => nomatch mem
  have keyed : store.Keyed := keyed_run fresh d operations
  refine ⟨keyed.get, fun ref entries written => ?_, fun ref call e after known adds refused => ?_⟩
  · exact Dialect.aggregations_reported (keyed.get ref) written
  · exact FluentCall.aggregation_refused known adds refused

def adding (target : Nat) (key type : String) (args sub : Value) : Operation :=
  .act ⟨target⟩ (.fluent (.edit (.aggregation (.str key) (.str type) args sub)))

def fieldOf (name : String) : Value := .map [("field", .str name)]

/-- An aggregation with a builder inside that is filled later, a ready-made one beside it, and a
copy of the builder with both. -/
def summing : List Operation :=
  [.query, .query, adding 0 "tags" "terms" (fieldOf "tag") (.builder ⟨1⟩),
    adding 1 "best" "max" (fieldOf "score") .null,
    .act ⟨0⟩ (.fluent (.preset "kinds" "terms" (fieldOf "kind")
      [.edit (.aggregation "worst" "min" (fieldOf "score") .null)])),
    .act ⟨0⟩ .clone]

/-- The copy reports both aggregations with what is inside them, and takes no other one with the key
of the first. -/
theorem run_reports_summing :
    let store := ((Desk.opened (.opened .standard fun _ _ => .value .null)).run .standard
      summing).workspace.store
    let again := FluentCall.preset "tags" "max" (fieldOf "score") []
    Dialect.standard.aggregations store (store.get ⟨1⟩) =
        .ok [("best", .map [("max", fieldOf "score")])] ∧
      (∃ entries, Dialect.standard.aggregations store (store.get ⟨3⟩) = .ok entries ∧
        entries.length = 2 ∧ List.Forall₂ (fun a entry => a.Reported .standard store entry)
          (store.get ⟨3⟩).aggregations entries) ∧
      (again.perform store ⟨3⟩).2.get ⟨3⟩ = store.get ⟨3⟩ := by
  intro store again
  obtain ⟨-, reports, refused⟩ := run_reports .standard
    (.opened .standard fun _ _ => .value .null) summing
  refine ⟨rfl, ⟨_, rfl, rfl, reports ⟨3⟩ _ rfl⟩, ?_⟩
  exact refused ⟨3⟩ again _ _ (by decide) trivial rfl

end Desk

end DocumentSearch
