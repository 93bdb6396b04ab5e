import DocumentSearch.Value.Access

/-!
# Values that replies are made of

A reply holds nothing but null, truth values, numbers, texts, lists and tables, however deep it is
looked into.
-/
namespace DocumentSearch.Value

mutual

/-- Whether a value is one that a reply is made of. -/
def isJson : Value → Bool
  | .null | .bool _ | .int _ | .float _ | .str _ => true
  | .list items => eachIsJson items
  | .map entries => entriesAreJson entries
  | _ => false
termination_by structural v => v

def eachIsJson : List Value → Bool
  | [] => true
  | v :: rest => isJson v && eachIsJson rest
termination_by structural vs => vs

def entryIsJson : Value × Value → Bool
  | (k, v) => isJson k && isJson v
termination_by structural p => p

def entriesAreJson : List (Value × Value) → Bool
  | [] => true
  | p :: rest => entryIsJson p && entriesAreJson rest
termination_by structural ps => ps

end

@[simp] theorem isJson_list (items : List Value) : (list items).isJson = items.all isJson := by
  change eachIsJson items = _
  induction items with
  | nil => rfl
  | cons v items ih => rw [eachIsJson, ih, List.all_cons]

@[simp] theorem isJson_map (entries : Entries) :
    (map entries).isJson = entries.all fun p => p.1.isJson && p.2.isJson := by
  change entriesAreJson entries = _
  induction entries with
  | nil => rfl
  | cons p entries ih => rw [entriesAreJson, ih, List.all_cons, entryIsJson]

variable {v : Value} {entries : Entries}

theorem isJson_of_mem (json : (map entries).isJson = true) {p : Value × Value} (mem : p ∈ entries) :
    p.2.isJson = true := by
  rw [isJson_map, List.all_eq_true] at json
  exact (Bool.and_eq_true_iff.mp (json p mem)).2

theorem isJson_getD (json : (map entries).isJson = true) (key : Value) {default : Value}
    (other : default.isJson = true) : ((Table.find? entries key).getD default).isJson = true := by
  cases found : Table.find? entries key with
  | none => exact other
  | some v =>
    obtain ⟨k, mem, -⟩ := Table.mem_of_find? found
    exact isJson_of_mem json mem

theorem isJson_under (json : (map entries).isJson = true) (key : String) :
    (under entries key).isJson = true := isJson_getD json key rfl

theorem isJson_of_entries? (json : v.isJson = true) (h : v.entries? = some entries) :
    (map entries).isJson = true := by
  cases v with
  | map => rwa [← Option.some.inj h]
  | response | view => cases json
  | _ => cases h

theorem isJson_of_items? (json : v.isJson = true) {items : List Value} (h : v.items? = some items) :
    ∀ item ∈ items, item.isJson = true := by
  cases v with
  | list =>
    rw [← Option.some.inj h]
    rwa [isJson_list, List.all_eq_true] at json
  | map entries =>
    rw [← Option.some.inj h]
    intro item mem
    obtain ⟨p, there, rfl⟩ := List.mem_map.mp mem
    rw [isJson_map, List.all_eq_true] at json
    exact (Bool.and_eq_true_iff.mp (json p there)).1
  | str =>
    rw [← Option.some.inj h]
    intro item mem
    obtain ⟨c, -, rfl⟩ := List.mem_map.mp mem
    rfl
  | tuple | bytes | response | view => cases json
  | _ => cases h

end DocumentSearch.Value
