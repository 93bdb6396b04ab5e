import DocumentSearch.Proofs.Execution.Edit

/-!
# The memory of a builder

A builder remembers its last result and what the reply said. Only a reading of the builder itself
touches that; edits, copies, writes, cursors and whatever is done with other builders leave it
alone.
-/
namespace DocumentSearch

open Outcome

namespace Builder

variable {b b' : Builder}

def memory (b : Builder) : Option Cached × Summary := (b.cache, b.summary)

theorem memory_blank (keyName : Value) : (blank keyName).memory = (none, .blank) := rfl

theorem memory_clone (b : Builder) : b.clone.memory = (none, .blank) := rfl

theorem apart_memory : Apart memory := by constructor <;> intros <;> rfl

theorem memory_withPage (b : Builder) (page perPage : Value) :
    (b.withPage page perPage).2.memory = b.memory := apart_memory.withPage b page perPage

theorem memory_cloneWithout {names : List Value} (h : b.cloneWithout names = .ok b') :
    b'.memory = (none, .blank) := apart_memory.cloneWithout h

end Builder

open Builder

namespace Edit

theorem memory_apply (store : Store) (self : Ref) (b : Builder) (edit : Edit) :
    (edit.apply store self b).2.memory = b.memory := by
  by_cases named : ∃ v, edit = .index v
  · obtain ⟨v, rfl⟩ := named
    rfl
  · exact apart_memory.apply store self b edit fun v eq => named ⟨v, eq⟩

end Edit

namespace Store

variable {s t u : Store}

/-- A store that still has all builders of another one, each with what it remembered, and beside
them only builders that remember nothing. -/
structure Keeps (s t : Store) : Prop where
  size : s.size ≤ t.size
  memory : ∀ ref : Ref, ref.index < s.size → (t.get ref).memory = (s.get ref).memory
  added : ∀ ref : Ref, s.size ≤ ref.index → ref.index < t.size →
    (t.get ref).memory = (none, .blank)

namespace Keeps

theorem refl (s : Store) : s.Keeps s where
  size := Nat.le_refl _
  memory _ _ := rfl
  added _ unknown known := by omega

theorem trans (h : s.Keeps t) (k : t.Keeps u) : s.Keeps u where
  size := Nat.le_trans h.size k.size
  memory ref known := (k.memory ref (Nat.lt_of_lt_of_le known h.size)).trans (h.memory ref known)
  added ref unknown known := by
    by_cases earlier : ref.index < t.size
    · rw [k.memory ref earlier, h.added ref unknown earlier]
    · exact k.added ref (by omega) known

theorem set {ref : Ref} {b : Builder} (same : b.memory = (s.get ref).memory) :
    s.Keeps (s.set ref b) where
  size := Nat.le_of_eq (size_set s ref b).symm
  memory other known := by
    by_cases eq : other = ref
    · subst eq
      rw [get_set_self s other b known, same]
    · rw [get_set_of_ne s b eq]
  added other unknown known := by
    rw [size_set] at known
    omega

theorem add {b : Builder} (blank : b.memory = (none, .blank)) : s.Keeps (s.add b).2 where
  size := by simp [Store.add, Store.size]
  memory ref known := by rw [get_add_of_lt s b known]
  added ref unknown known := by
    have last : ref = (s.add b).1 := by
      obtain ⟨index⟩ := ref
      simp only [Store.add, Store.size, List.length_append, List.length_singleton] at *
      exact congrArg Ref.mk (by omega)
    rw [last, get_add_self, blank]

end Keeps

end Store

namespace FluentCall

mutual

/-- The builder inside an aggregation is a new one, so even while it is filled nothing that was
there before forgets. -/
theorem perform_keeps (store : Store) (ref : Ref) :
    ∀ call : FluentCall, store.Keeps (call.perform store ref).2
  | .edit e => .set (e.memory_apply store ref (store.get ref))
  | .preset key type args calls => by
    have added := Store.Keeps.add (s := store) (memory_blank (store.get ref).keyName)
    have filled := performAll_keeps (store.add (.blank (store.get ref).keyName)).2
      (store.add (.blank (store.get ref).keyName)).1 calls
    rw [perform]
    dsimp only
    split
    -- A refused call inside leaves the new builder behind, filled as far as that.
    · rename_i e after refused
      rw [refused] at filled
      exact added.trans filled
    · rename_i after done
      rw [done] at filled
      exact (added.trans filled).trans (.set (apart_memory.attach _ key type args _))

theorem performAll_keeps (store : Store) (ref : Ref) :
    ∀ calls : List FluentCall, store.Keeps (performAll store ref calls).2
  | [] => by rw [performAll]; exact .refl store
  | call :: rest => by
    have first := perform_keeps store ref call
    rw [performAll]
    split
    · rename_i after done
      rw [done] at first
      exact first.trans (performAll_keeps after ref rest)
    · rename_i e after refused
      rw [refused] at first
      exact first

end

end FluentCall

/-- A call that looks at the documents of a builder or at what the reply with them said. -/
inductive Reading where
  | documents (columns : Value)
  | first (columns : Value)
  | page (perPage number : Value)
  | aggregations
  | took
  | rawReply

def Reading.action : Reading → Action
  | documents columns => .read columns
  | first columns => .readFirst columns
  | page perPage number => .paginate perPage number
  | aggregations => .aggregationResults
  | took => .duration
  | rawReply => .rawReply

namespace Action

def reading? : Action → Option Reading
  | read columns => some (.documents columns)
  | readFirst columns => some (.first columns)
  | paginate perPage number => some (.page perPage number)
  | aggregationResults => some .aggregations
  | duration => some .took
  | rawReply => some .rawReply
  | _ => none

theorem action_reading? {action : Action} {reading : Reading}
    (reads : action.reading? = some reading) : reading.action = action := by
  cases action <;> cases reads <;> rfl

theorem adding_keeps (w : Workspace) {outcome : Except Error Builder}
    (blank : ∀ b, outcome = .ok b → b.memory = (none, .blank)) :
    w.store.Keeps (adding w outcome).2.store := by
  cases outcome with
  | error e => exact .refl _
  | ok b => exact .add (blank b rfl)

theorem perform_keeps (d : Dialect) (w : Workspace) (ref : Ref) {action : Action}
    (other : action.reading? = none) : w.store.Keeps (action.perform d w ref).2.store := by
  cases action with
  | fluent call => exact call.perform_keeps w.store ref
  | clone =>
    refine adding_keeps w fun b h => ?_
    cases h
    exact memory_clone _
  | cloneWithout names =>
    refine adding_keeps w fun b h => ?_
    obtain ⟨names, -, h⟩ := bind_eq_ok.mp h
    exact memory_cloneWithout h
  | newQuery =>
    refine adding_keeps w fun b h => ?_
    cases h
    exact memory_blank _
  | read | readFirst | paginate | aggregationResults | duration | rawReply => cases other
  | searchRequest | openCursor | count | insert | update | updateByQuery | delete | routing
  | parentId | option => exact .refl _

theorem perform_reading_store (d : Dialect) (w : Workspace) (ref : Ref) {action : Action}
    {reading : Reading} (reads : action.reading? = some reading) :
    ∃ b, (action.perform d w ref).2.store = w.store.set ref b := by
  cases action with
  | read | readFirst | paginate | aggregationResults | duration | rawReply => exact ⟨_, rfl⟩
  | _ => cases reads

end Action

end DocumentSearch
