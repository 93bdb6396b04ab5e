import Mathlib.Data.Finset.Basic
import DocumentSearch.Admin.Basic

/-!
# Alias tables

A table says which aliases are on which indices. Actions add an alias to an index or remove it from
one, and are executed in order.
-/
namespace DocumentSearch

inductive AliasAction where
  | add (name index : String)
  | remove (name index : String)
  deriving DecidableEq, Repr

namespace AliasAction

def name : AliasAction → String
  | add name _ | remove name _ => name

def index : AliasAction → String
  | add _ index | remove _ index => index

def under (s : String) : AliasAction → AliasAction
  | add name index => add (name ++ s) (index ++ s)
  | remove name index => remove (name ++ s) (index ++ s)

def sent : AliasAction → Value
  | add name index => Admin.aliasAction "add" (.str index) (.str name)
  | remove name index => Admin.aliasAction "remove" (.str index) (.str name)

/-- The actions that take an alias off some indices and then put it on one. -/
def moves (name index : String) (removed : List String) : List AliasAction :=
  removed.map (remove name) ++ [add name index]

theorem under_moves (s name index : String) (removed : List String) :
    (moves name index removed).map (under s) =
      moves (name ++ s) (index ++ s) (removed.map (· ++ s)) := by
  simp [moves, under]

theorem name_of_mem_moves {action : AliasAction} {name index : String} {removed : List String}
    (mem : action ∈ moves name index removed) : action.name = name := by
  simp only [moves, List.mem_append, List.mem_map, List.mem_singleton] at mem
  obtain ⟨place, -, rfl⟩ | rfl := mem <;> rfl

theorem exists_nameless_iff {name index : String} {removed : List String} :
    (∃ action ∈ moves name index removed, action.index = "") ↔ index = "" ∨ "" ∈ removed := by
  simp only [moves, List.mem_append, List.mem_map, List.mem_singleton, or_and_right, exists_or,
    exists_exists_and_eq_and, exists_eq_left]
  rw [or_comm]
  simp [AliasAction.index]

end AliasAction

/-- The pairs of an alias and an index that it is on. -/
structure AliasTable where
  pairs : Finset (String × String)
  deriving DecidableEq

namespace AliasTable

variable {t : AliasTable} {name other index : String} {actions : List AliasAction}

def On (t : AliasTable) (name index : String) : Prop := (name, index) ∈ t.pairs

def apply (t : AliasTable) : AliasAction → AliasTable
  | .add name index => ⟨insert (name, index) t.pairs⟩
  | .remove name index => ⟨t.pairs.erase (name, index)⟩

def execute (t : AliasTable) (actions : List AliasAction) : AliasTable := actions.foldl apply t

theorem execute_append (t : AliasTable) (actions more : List AliasAction) :
    t.execute (actions ++ more) = (t.execute actions).execute more := List.foldl_append

theorem on_add (t : AliasTable) (name index place : String) :
    (t.apply (.add name index)).On name place ↔ place = index ∨ t.On name place := by
  simp [apply, On]

theorem on_remove (t : AliasTable) (name index place : String) :
    (t.apply (.remove name index)).On name place ↔ place ≠ index ∧ t.On name place := by
  simp [apply, On]

theorem on_apply_of_ne (t : AliasTable) {action : AliasAction} (ne : other ≠ action.name)
    (place : String) : (t.apply action).On other place ↔ t.On other place := by
  cases action <;> simp_all [apply, On, AliasAction.name]

theorem on_execute_of_ne (only : ∀ action ∈ actions, action.name = name) (ne : other ≠ name)
    (t : AliasTable) (place : String) : (t.execute actions).On other place ↔ t.On other place := by
  induction actions generalizing t with
  | nil => rfl
  | cons action rest ih =>
    obtain ⟨own, others⟩ := List.forall_mem_cons.mp only
    exact (ih others (t.apply action)).trans (t.on_apply_of_ne (own ▸ ne) place)

theorem on_execute_remove (t : AliasTable) (name : String) (indices : List String)
    (place : String) :
    (t.execute (indices.map (.remove name))).On name place ↔
      place ∉ indices ∧ t.On name place := by
  induction indices generalizing t with
  | nil => simp [execute]
  | cons index rest ih =>
    have later := (ih (t.apply (.remove name index))).trans (and_congr_right' (t.on_remove _ _ _))
    rw [List.mem_cons, not_or]
    exact later.trans (by tauto)

/-- Where the alias was is left but for the indices that it is taken off. -/
theorem on_execute_moves (t : AliasTable) (name index : String) (removed : List String)
    (place : String) :
    (t.execute (AliasAction.moves name index removed)).On name place ↔
      place = index ∨ place ∉ removed ∧ t.On name place := by
  rw [AliasAction.moves, execute_append, ← on_execute_remove]
  exact on_add _ name index place

end AliasTable

end DocumentSearch
