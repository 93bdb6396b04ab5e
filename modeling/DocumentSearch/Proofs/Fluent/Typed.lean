import DocumentSearch.Proofs.Fluent.Stated

/-!
# Clauses of well-typed calls

The calls that add clauses take any values. Those that are meant are names of fields for columns,
and they are all that a clause needs to be written: it has no options, and what stands where a name
or a table is needed is one.
-/
namespace DocumentSearch

open Outcome

namespace Value

def IsText (v : Value) : Prop := ∃ s, v = .str s

/-- What stands for the columns of a comparison: the name of a field, a builder, or a table with
such keys. -/
def NamesColumns : Value → Prop
  | .str _ | .builder _ => True
  | v => ∃ entries, v.map? = some entries ∧
      ∀ p ∈ entries, p.1.IsText ∨ ∃ ref, p.1 = .builder ref

theorem NamesColumns.keys {v : Value} {entries : List (Value × Value)} (h : v.NamesColumns)
    (table : v.map? = some entries) : ∀ p ∈ entries, p.1.IsText ∨ ∃ ref, p.1 = .builder ref := by
  cases v with
  | str s => cases table
  | builder ref => cases table
  | _ =>
    obtain ⟨other, same, keys⟩ := h
    cases table.symm.trans same
    exact keys

theorem NamesColumns.isText {v : Value} (h : v.NamesColumns) (noBuilder : ∀ ref, v ≠ .builder ref)
    (noTable : v.map? = none) : v.IsText := by
  cases v with
  | str s => exact ⟨s, rfl⟩
  | builder ref => exact absurd rfl (noBuilder ref)
  | _ =>
    obtain ⟨entries, same, -⟩ := h
    cases noTable.symm.trans same

/-- What stands for the fields of a search: nothing, one name, a sequence of names, or a table with
weights. -/
def NamesFields (v : Value) : Prop :=
  match v.seen with
  | .null | .str _ | .map _ => True
  | .list items | .tuple items => ∀ item ∈ items, item.IsText
  | _ => False

end Value

/-- A criterion with names where names are meant, and without options. -/
def Criterion.Typed : Criterion → Prop
  | comparison column _ _ _ => column.NamesColumns
  | membership column _ _ _ | range column _ _ _ | presence column _ _ | date column _ _ _
  | datePart _ column _ _ _ | geoDistance column _ _ _ _ _ | geoBounds column _ _ _
  | startsWith column _ _ _ | nestedDocument column _ _ => column.IsText
  | search _ fields _ _ _ _ => fields.NamesFields
  | parent _ _ options _ | child _ _ options _ => options.truthy = false
  | functionScore functionType _ _ => functionType.IsText
  | group _ _ | negation _ _ | parentId _ _ _ | script _ _ _ _ => True

/-- A condition that holds a name where one is written as a key, and a table where the entries of
one are written. -/
def Condition.Plain : Condition → Prop
  | basic column _ _ | date column _ _ | among column _ | notAmong column _ | between column _ _
  | geoDistance column _ _ | geoBounds column _ | startsWith column _ => column.IsText
  | search _ fields _ _ _ => fields.NamesFields
  | script _ params _ => params = .null ∨ ∃ entries, params = .map entries
  | functionScore functionType arguments =>
    functionType.IsText ∧ ∃ entries, arguments = .map entries
  | group _ part => ∃ k : Bucket, part = .str k.name
  | absent _ | present _ | nestedDocument _ _ | negation _ | parent _ _ | child _ _
  | parentId _ _ => True

def Clause.Plain (c : Clause) : Prop := c.options = [] ∧ c.condition.Plain

namespace Criterion

theorem optionsOf_falsy {kind : ClauseKind} {v : Value} {options : Entries}
    (falsy : v.truthy = false) (h : Clause.optionsOf kind v = .ok options) : options = [] := by
  unfold Clause.optionsOf at h
  split at h
  · rename_i entries table
    obtain rfl := Except.ok.inj h
    unfold Value.map? at table
    cases v with
    | map entries =>
      obtain rfl := Option.some.inj table
      simpa [Value.truthy] using falsy
    | view part ref contents =>
      cases contents with
      | map entries =>
        obtain rfl := Option.some.inj table
        simpa [Value.truthy] using falsy
      | _ => cases table
    | _ => cases table
  · split at h
    · exact (Except.ok.inj h).symm
    · cases h

variable {criterion : Criterion}

theorem Typed.options_falsy (typed : criterion.Typed) : criterion.options.truthy = false := by
  cases criterion with
  | parent documentType query options connective | child documentType query options connective =>
    have falsy : options.truthy = false := typed
    rw [Criterion.options, Value.orElse, falsy]
    rfl
  | _ => rfl

theorem States.plain {c : Condition} (stated : criterion.States c) (typed : criterion.Typed) :
    c.Plain := by
  cases stated with
  | comparison plain noTable => exact Value.NamesColumns.isText typed plain noTable
  | entry table mem plain =>
    exact (typed.keys table _ mem).resolve_right fun ⟨ref, same⟩ => plain ref same
  | among | notAmong | range | date | geoDistance | geoBounds | search | startsWith => exact typed
  | datePart source params => exact .inr ⟨params, rfl⟩
  | script filled shape => exact shape
  | functionScore entries => exact ⟨typed, entries, rfl⟩
  | absent | present | nestedDocument | negation | parent | child | parentId => trivial

theorem plain_of_mem_clauses {store : Store} {self : Ref} (typed : criterion.Typed)
    {clauses : List (Bucket × Clause)} (h : criterion.clauses store self = .ok clauses) :
    ∀ c ∈ clauses, c.2.Plain := by
  refine (criterion.stands_clauses store self clauses h).forall (fun c made => ?_) fun _ _ _ k => ?_
  · obtain ⟨kind, read⟩ := made.options
    exact ⟨optionsOf_falsy typed.options_falsy read, made.condition.plain typed⟩
  · exact ⟨rfl, k, rfl⟩

end Criterion

namespace Clause

/-- A clause that some call of some builder adds, if the call is well typed. -/
def Authored (c : Clause) : Prop :=
  ∃ store self criterion clauses k, Criterion.Typed criterion ∧
    criterion.clauses store self = .ok clauses ∧ (k, c) ∈ clauses

theorem Authored.plain {c : Clause} (h : c.Authored) : c.Plain := by
  obtain ⟨store, self, criterion, clauses, k, typed, made, mem⟩ := h
  exact Criterion.plain_of_mem_clauses typed made (k, c) mem

end Clause

end DocumentSearch
