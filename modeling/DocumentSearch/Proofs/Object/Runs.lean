import DocumentSearch.Proofs.Cache.History
import DocumentSearch.Proofs.Object.Actions

/-!
# Runs over heaps of builders

Builders that share clauses, references and the connection are used in turns, and a clause can be
put into the list of another builder. A run over such a heap is a run over builders as values.
-/
namespace DocumentSearch

open Heap

namespace Memory

inductive Step where
  | act (target : Ref) (action : Action)
  /-- A clause that is there is put into a bucket. -/
  | share (target : Ref) (clause : Address) (bucket : Value)
  | next (cursor : DocumentCursor)
  | close (cursor : DocumentCursor)

namespace Step

def perform (d : Dialect) (m : Memory) : Step → Memory
  | act target action => (m.perform d target action).2
  | share target clause bucket => { m with heap := (m.heap.share target clause bucket).2 }
  | next cursor => { m with line := (cursor.next d m.heap.store m.line).2.2 }
  | close cursor => { m with line := (cursor.close m.line).2.2 }

def seen (m : Memory) : Step → Workspace.Step
  | act target action => .act target action
  | share target clause bucket =>
    .act target (.fluent (.edit (.clause (m.heap.clauseAt clause) bucket)))
  | next cursor => .next cursor
  | close cursor => .close cursor

/-- A step on a builder, and with a clause, that are there. -/
def Grounded (m : Memory) : Step → Prop
  | act target _ => target.index < m.heap.bodies.length
  | share target clause _ => target.index < m.heap.bodies.length ∧ clause < m.heap.size .clause
  | next _ | close _ => True

instance (m : Memory) : (step : Step) → Decidable (step.Grounded m)
  | act .. => Nat.decLt ..
  | share .. => instDecidableAnd
  | next _ | close _ => instDecidableTrue

/-- The builder whose objects a step may change. -/
def uses : Step → Option Ref
  | act target action => action.uses target
  | share target _ _ => some target
  | next _ | close _ => none

end Step

def run (d : Dialect) (m : Memory) (steps : List Step) : Memory :=
  steps.foldl (fun m step => step.perform d m) m

def seen (d : Dialect) : Memory → List Step → List Workspace.Step
  | _, [] => []
  | m, step :: rest => step.seen m :: seen d (step.perform d m) rest

def Grounded (d : Dialect) : Memory → List Step → Prop
  | _, [] => True
  | m, step :: rest => step.Grounded m ∧ Grounded d (step.perform d m) rest

instance decidableGrounded (d : Dialect) : (m : Memory) → (steps : List Step) →
    Decidable (m.Grounded d steps)
  | _, [] => instDecidableTrue
  | m, step :: rest =>
    have := decidableGrounded d (step.perform d m) rest
    instDecidableAnd

variable {d : Dialect} {m : Memory}

theorem share_edits {h : Heap} {r : Ref} {a : Address} (apart : h.Apart)
    (known : r.index < h.bodies.length) (there : a < h.size .clause) (bucket : Value) :
    Edits h r (h.share r a bucket)
      ((Edit.clause (h.clauseAt a) bucket).apply h.store r (h.view (h.body r))) := by
  refine edits_settle apart known (.bind fun k _ => ?_)
  have gains := append_gains apart.sound (apart.owned r known) k
    (List.forall_mem_singleton.mpr there)
  have same := gains.turns.frame.clauseAt gains.turns.before gains.turns.owners there
  have view : (h.append (h.body r) k [a]).view (h.body r) =
      (h.view (h.body r)).place [(k, h.clauseAt a)] := by
    rw [gains.view, Builder.place_eq_grown]
    refine congrArg _ (funext fun other => ?_)
    by_cases here : k = other
    · subst here
      simp [same]
    · simp [here, Ne.symm here]
  exact becomes_of_view apart known ⟨gains.turns, view⟩

/-- What a step does to the heap is what it does to the builders as values, and it changes no object
but those of the builder that it uses. -/
theorem Step.perform_spec (d : Dialect) (apart : m.heap.Apart) {step : Step}
    (grounded : step.Grounded m) :
    (step.perform d m).workspace = (step.seen m).perform d m.workspace ∧
      (step.perform d m).heap.Apart ∧ Spares step.uses m.heap (step.perform d m).heap := by
  cases step with
  | act target action =>
    have same := perform_matches d apart grounded action
    exact ⟨same.workspace, same.becomes.apart, same.becomes.spares⟩
  | share target clause bucket =>
    obtain ⟨known, there⟩ := grounded
    obtain ⟨result, becomes⟩ := share_edits apart known there bucket
    refine ⟨?_, becomes.apart, becomes.spares⟩
    rw [← get_store known] at becomes
    exact congrArg (fun store => Workspace.mk store m.line) becomes.shows
  | next cursor | close cursor => exact ⟨rfl, apart, .refl nofun⟩

theorem run_spec {steps : List Step} (apart : m.heap.Apart) (grounded : m.Grounded d steps) :
    (m.run d steps).workspace = m.workspace.run d (m.seen d steps) ∧
      (m.run d steps).heap.Apart := by
  induction steps generalizing m with
  | nil => exact ⟨rfl, apart⟩
  | cons step rest ih =>
    obtain ⟨first, later⟩ := grounded
    obtain ⟨workspace, apart, -⟩ := step.perform_spec d apart first
    have run := ih apart later
    rw [workspace] at run
    exact run

end Memory

end DocumentSearch
