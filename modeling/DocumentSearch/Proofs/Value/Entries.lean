import DocumentSearch.Value.Access
import DocumentSearch.Proofs.Outcome

/-!
# Tables behind values

A value is a table as such, as a reply object around one or as a table of a builder. What is looked
up in it, whether it counts as true and what stands in for it all come from its entries.
-/
namespace DocumentSearch.Value

open Outcome

variable {v : Value} {entries : Entries}

theorem entries_eq (seen : v.entries? = some entries) : v.entries = .ok entries := by
  rw [Value.entries, seen]

theorem entries_eq_ok : v.entries = .ok entries ↔ v.entries? = some entries := by
  unfold Value.entries
  cases v.entries? <;> simp

theorem get_eq (seen : v.entries? = some entries) (key : String) (default : Value) :
    v.get key default = .ok ((entries.find? key).getD default) := by
  rw [get, entries_eq seen]
  rfl

theorem truthy_of_entries? (seen : v.entries? = some entries) : v.truthy = !entries.isEmpty := by
  fun_induction Value.entries? v with
  | case1 found =>
    obtain rfl := Option.some.inj seen
    rfl
  | case2 body ih => exact ih seen
  | case3 part ref contents ih => exact ih seen
  | case4 => cases seen

theorem holds_of_entries? (name : String) (seen : v.entries? = some entries) :
    v.holds name = .ok (entries.has name) := by
  fun_induction Value.entries? v with
  | case1 found =>
    obtain rfl := Option.some.inj seen
    rfl
  | case2 body ih => exact ih seen
  | case3 part ref contents ih => exact ih seen
  | case4 => cases seen

theorem entries?_orElse (seen : v.entries? = some entries) :
    (v.orElse (.map [])).entries? = some entries := by
  unfold orElse
  cases entries with
  | nil =>
    have falsy : v.truthy = false := truthy_of_entries? seen
    rw [falsy]
    rfl
  | cons entry rest =>
    have truthy : v.truthy = true := truthy_of_entries? seen
    rwa [if_pos truthy]

theorem toEntries_orElse (seen : v.entries? = some entries) :
    (v.orElse (.map [])).toEntries = .ok entries := by
  rw [toEntries, entries?_orElse seen]

def fieldsOf (v : Value) : Entries := v.entries?.getD []

theorem fieldsOf_eq (seen : v.entries? = some entries) : v.fieldsOf = entries := by
  rw [fieldsOf, seen, Option.getD_some]

theorem fieldsOf_getD {given : Option Value}
    (seen : (given.getD (.map [])).entries? = some entries) :
    (given.getD .null).fieldsOf = entries := by
  cases given with
  | none =>
    cases seen
    rfl
  | some given => exact fieldsOf_eq seen

end DocumentSearch.Value
