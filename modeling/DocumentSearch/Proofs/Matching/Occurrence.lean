import DocumentSearch.Proofs.Matching.Bucket

/-!
# Occurrences in requests

A fragment that is written into another one stands somewhere in it. Joining the clauses of a bucket,
putting a filter beside a query, options and negation all keep what stands in their parts.
-/
namespace DocumentSearch

open Fragment Outcome

/-- A value that stands in another one, at any depth of its lists and tables. -/
inductive Value.Occurs (v : Value) : Value → Prop where
  | here : Occurs v v
  | item {w : Value} {items : List Value} (mem : w ∈ items) (inside : Occurs v w) :
      Occurs v (.list items)
  | entry {key w : Value} {entries : Entries} (mem : (key, w) ∈ entries) (inside : Occurs v w) :
      Occurs v (.map entries)

namespace Value.Occurs

theorem trans {u v w : Value} (inner : Occurs u v) (outer : Occurs v w) : Occurs u w := by
  induction outer with
  | here => exact inner
  | item mem _ ih => exact .item mem ih
  | entry mem _ ih => exact .entry mem ih

theorem of_find? {v w key : Value} {entries : Entries} (found : Table.find? entries key = some w)
    (inside : Occurs v w) : Occurs v (.map entries) := by
  obtain ⟨k, mem, -⟩ := Table.mem_of_find? found
  exact .entry mem inside

theorem of_mem_list {v : Value} {items : List Value} (mem : v ∈ items) : Occurs v (.list items) :=
  .item mem .here

theorem of_single {v w key : Value} (inside : Occurs v w) : Occurs v (.map [(key, w)]) :=
  .entry List.mem_cons_self inside

theorem map_iff {v : Value} {entries : Entries} :
    Occurs v (.map entries) ↔ v = .map entries ∨ ∃ p ∈ entries, Occurs v p.2 := by
  constructor
  · rintro (_ | _ | ⟨mem, inside⟩)
    · exact .inl rfl
    · exact .inr ⟨_, mem, inside⟩
  · rintro (rfl | ⟨p, mem, inside⟩)
    · exact .here
    · exact .entry mem inside

theorem list_iff {v : Value} {items : List Value} :
    Occurs v (.list items) ↔ v = .list items ∨ ∃ w ∈ items, Occurs v w := by
  constructor
  · rintro (_ | ⟨mem, inside⟩)
    · exact .inl rfl
    · exact .inr ⟨_, mem, inside⟩
  · rintro (rfl | ⟨w, mem, inside⟩)
    · exact .here
    · exact .item mem inside

theorem str_iff {v : Value} {s : String} : Occurs v (.str s) ↔ v = .str s :=
  ⟨fun h => by cases h; rfl, fun h => h ▸ .here⟩

theorem bool_iff {v : Value} {b : Bool} : Occurs v (.bool b) ↔ v = .bool b :=
  ⟨fun h => by cases h; rfl, fun h => h ▸ .here⟩

end Value.Occurs

namespace Fragment

theorem occurs_negatedIf {v : Value} {fragment : Entries} (negated : Bool)
    (h : v.Occurs (.map fragment)) : v.Occurs (.map (negatedIf negated fragment)) := by
  cases negated with
  | false => exact h
  | true => exact .of_single (.of_single (.item List.mem_cons_self h))

/-- A boolean query with a fragment among what it requires or offers, under a key that neither
options nor a filter write to. -/
def Gathers (fragment part : Entries) : Prop :=
  ∃ (fields : Entries) (key : String) (items : Value),
    fragment = ([("bool", .map fields)] : Entries) ∧ (key = "must" ∨ key = "should") ∧
      Table.find? fields key = some items ∧ (Value.map part).Occurs items

theorem Gathers.ne_nil {fragment part : Entries} (h : Gathers fragment part) : fragment ≠ [] := by
  obtain ⟨_, _, _, rfl, -⟩ := h
  exact nofun

theorem Gathers.occurs {fragment part : Entries} (h : Gathers fragment part) :
    (Value.map part).Occurs (.map fragment) := by
  obtain ⟨fields, key, items, rfl, -, found, inside⟩ := h
  exact .of_single (.of_find? found inside)

theorem Gathers.trans {fragment part inner : Entries} (h : Gathers fragment part)
    (inside : (Value.map inner).Occurs (.map part)) : Gathers fragment inner := by
  obtain ⟨fields, key, items, shape, keys, found, occurs⟩ := h
  exact ⟨fields, key, items, shape, keys, found, inside.trans occurs⟩

theorem gathers_allOf {fragments : List Entries} {part : Entries} (mem : part ∈ fragments) :
    Gathers (allOf fragments) part := by
  have filled : fragments.isEmpty = false := by
    cases fragments with
    | nil => cases mem
    | cons => rfl
  refine ⟨[("must", .list (fragments.map Value.map))], "must", _, by simp [allOf, filled],
    .inl rfl, rfl, .of_mem_list (List.mem_map_of_mem mem)⟩

theorem gathers_anyOf {alternatives : List Value} {part : Entries} {v : Value}
    (mem : v ∈ alternatives) (inside : (Value.map part).Occurs v) :
    Gathers (anyOf alternatives) part :=
  ⟨[("should", .list alternatives)], "should", _, rfl, .inr rfl, rfl, .item mem inside⟩

theorem occurs_alternative (part : Bool × Entries) :
    (Value.map part.2).Occurs (alternative part) := by
  obtain ⟨joined, fragment⟩ := part
  cases joined with
  | true => exact .here
  | false => exact (gathers_allOf List.mem_cons_self).occurs

theorem gathers_joining {parts : Chain Entries} {part : Bool × Entries} (mem : part ∈ parts) :
    Gathers (joining parts) part.2 := by
  unfold joining
  split
  · exact gathers_allOf (List.mem_map_of_mem mem)
  · rw [← parts.lead_append_later, List.mem_append] at mem
    rcases mem with early | late
    · have filled : List.isEmpty parts.lead = false := by
        cases hl : parts.lead with
        | nil => exact absurd (hl ▸ early) List.not_mem_nil
        | cons => rfl
      rw [filled]
      exact gathers_anyOf List.mem_cons_self (gathers_allOf (List.mem_map_of_mem early)).occurs
    · exact gathers_anyOf (List.mem_append_right _ (List.mem_map_of_mem late))
        (occurs_alternative part)

theorem Gathers.withOptions {fragment part options result : Entries} (h : Gathers fragment part)
    (written : Fragment.withOptions fragment options = .ok result) :
    (Value.map part).Occurs (.map result) := by
  obtain ⟨fields, key, items, rfl, keys, found, inside⟩ := h
  obtain ⟨_, rfl, changed, rfl, same⟩ := withOptions_table (by decide) (by decide) written
  have apart : key ≠ "boost" ∧ key ≠ "inner_hits" := by
    rcases keys with rfl | rfl <;> decide
  exact .of_single (.of_find? ((same key apart.1 apart.2).trans found) inside)

theorem occurs_joint (j : Joint) {v column : Value} {query options fragment : Entries}
    (inside : v.Occurs (.map query))
    (h : Fragment.withOptions
      [(.str j.names.1, .map [(.str j.names.2, column), ("query", .map query)])] options =
        .ok fragment) : v.Occurs (.map fragment) := by
  obtain ⟨_, rfl, changed, rfl, same⟩ :=
    withOptions_table (by cases j <;> decide) (by cases j <;> decide) h
  have other : j.names.2 ≠ "query" := by cases j <;> decide
  have found := same "query" (by decide) (by decide)
  rw [Table.find?_cons, if_neg (by simpa using other)] at found
  exact .of_single (.of_find? found inside)

end Fragment

namespace Dialect

theorem attachFilter_ne_nil (query filter : Entries) : attachFilter query filter ≠ [] :=
  Table.insert_ne_nil _ _ _

theorem occurs_attachFilter (query filter : Entries) :
    (Value.map filter).Occurs (.map (attachFilter query filter)) :=
  .of_find? (Table.find?_insert_self _ _ _) (.of_find? (Table.find?_insert_self _ _ _) .here)

theorem gathers_attachFilter {query filter part : Entries} (h : Gathers query part) :
    Gathers (attachFilter query filter) part := by
  obtain ⟨fields, key, items, rfl, keys, found, inside⟩ := h
  have apart : key ≠ "filter" ∧ key ≠ "minimum_should_match" := by
    rcases keys with rfl | rfl <;> decide
  let inner : Entries :=
    if fields.has "should" && !fields.has "must" && !fields.has "minimum_should_match"
    then fields.insert "minimum_should_match" (.int 1) else fields
  have kept : Table.find? inner key = some items := by
    simp only [inner]
    split
    · rw [Table.find?_insert_of_ne _ _ (by simpa using apart.2), found]
    · exact found
  refine ⟨inner.insert "filter" (.map filter), key, items, ?_, keys, ?_, inside⟩
  · simp [inner, attachFilter, Value.under, Value.map?, Value.seen, Table.find?_cons, Table.insert]
  · rw [Table.find?_insert_of_ne _ _ (by simpa using apart.1), kept]

end Dialect

end DocumentSearch
