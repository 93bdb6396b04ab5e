import Mathlib.Data.List.Forall2
import DocumentSearch.Request.Write
import DocumentSearch.Proofs.Value.Entries

/-!
# Items of bulk requests

The body of a bulk request is a list of items, each an action and the document that it is for. A
document brings the items of its children and then its own.
-/
namespace DocumentSearch

open Outcome

section Related

variable {α β : Type} {R : α → β → Prop} {l : List α} {m : List β}

theorem exists_mem_of_forall₂ (related : List.Forall₂ R l m) : ∀ b ∈ m, ∃ a ∈ l, R a b := by
  induction related with
  | nil => simp
  | cons first rest ih =>
    refine List.forall_mem_cons.mpr ⟨⟨_, List.mem_cons_self, first⟩, fun b mem => ?_⟩
    obtain ⟨a, mem, one⟩ := ih b mem
    exact ⟨a, List.mem_cons_of_mem _ mem, one⟩

theorem forall_mem_iff_of_forall₂ {P : α → Prop} {Q : β → Prop} (related : List.Forall₂ R l m)
    (each : ∀ a b, R a b → (Q b ↔ P a)) : (∀ b ∈ m, Q b) ↔ ∀ a ∈ l, P a := by
  induction related with
  | nil => simp
  | cons first rest ih => simp only [List.forall_mem_cons, each _ _ first, ih]

end Related

namespace Outcome

variable {ε α β : Type} {f : α → Except ε β}

theorem forall₂_of_mapM {l : List α} {r : List β} (h : l.mapM f = .ok r) :
    List.Forall₂ (fun a b => f a = .ok b) l r := by
  induction l generalizing r with
  | nil =>
    obtain rfl := pure_eq_ok.mp h
    exact .nil
  | cons a l ih =>
    obtain ⟨b, s, one, rest, rfl⟩ := mapM_cons_eq_ok.mp h
    exact .cons one (ih rest)

end Outcome

namespace Table

variable {κ α : Type} [BEq κ] [EquivBEq κ]

theorem find?_without (t : Table κ α) (dropped : List κ) (key : κ) :
    (t.without dropped).find? key = if dropped.contains key then none else t.find? key := by
  induction t with
  | nil => simp [without]
  | cons p t ih =>
    obtain ⟨k, v⟩ := p
    rw [without] at ih ⊢
    by_cases same : k == key
    · have alike : dropped.contains k = dropped.contains key := by
        simp only [List.contains_eq_any_beq, BEq.congr_left same]
      cases out : dropped.contains key with
      | true => simpa [alike, out] using ih
      | false => simp [alike, out, find?_cons, same]
    · cases out : dropped.contains k <;> simp [out, find?_cons, same, ih]

end Table

structure BulkItem where
  action : Entries
  document : Entries

namespace BulkItem

variable {b : Builder} {index : String} {document : Entries}

def lines (item : BulkItem) : List Value := [.map [("index", .map item.action)], .map item.document]

def body (items : List BulkItem) : List Value := items.flatMap lines

@[simp] theorem body_append (items more : List BulkItem) :
    body (items ++ more) = body items ++ body more := List.flatMap_append

@[simp] theorem length_body (items : List BulkItem) : (body items).length = 2 * items.length := by
  induction items with
  | nil => rfl
  | cons item rest ih =>
    simp only [body, List.flatMap_cons, List.length_append] at ih ⊢
    simp only [ih, lines, List.length_cons, List.length_nil]
    omega

def request (items : List BulkItem) : Entries := [("body", .list (body items))]

end BulkItem

namespace Dialect

variable {d : Dialect} {b : Builder} {index : String} {document : Entries}

def idOf? (document : Entries) : Option Value :=
  ((document.find? "id").or (document.find? "_id")).filter (fun id => !id.isNull)

theorem documentId_eq (document : Entries) :
    documentId document = (idOf? document).getD .null := by
  have given : ∀ v : Value, v = ((some v).filter (fun id => !id.isNull)).getD .null := by
    intro v
    cases v <;> rfl
  unfold documentId idOf? Value.under
  cases document.find? "id" with
  | some id => exact given id
  | none =>
    cases document.find? "_id" with
    | some id => exact given id
    | none => rfl

theorem isNull_documentId (document : Entries) :
    (documentId document).isNull = true ↔ idOf? document = none := by
  rw [documentId_eq]
  cases found : idOf? document with
  | none => simp [Value.isNull]
  | some id =>
    have given := (Option.filter_eq_some_iff.mp found).2
    simpa using given

/-- The item of a document itself. The document's own routing comes before the builder's, the
builder's parent before the document's. -/
structure Own (b : Builder) (index : String) (document : Entries) (item : BulkItem) : Prop where
  index : item.action.find? "_index" = some (.str index)
  id : item.action.find? "_id" = idOf? document
  routing : item.action.find? "routing" =
    [Value.under document "_routing", b.routing].find? Value.truthy
  parent : item.action.find? "parent" =
    [b.parentId, Value.under document "_parent"].find? Value.truthy
  only : ∀ key ∈ item.action.keys, key ∈ (["_index", "_id", "routing", "parent"] : List Value)
  fields : ∀ key, item.document.find? key =
    if reservedKeys.contains key then none else document.find? key
  order : item.document.Sublist document

theorem find?_entryUnlessFalsy (key other : String) (first second : Value) :
    Table.find? (entryUnlessFalsy key (first.orElse second)) other =
      if key = other then [first, second].find? Value.truthy else none := by
  rw [entryUnlessFalsy, find?_entryIf, Value.orElse]
  cases one : first.truthy <;> cases two : second.truthy <;> simp [one, two]

theorem find?_id (document : Entries) (other : String) :
    Table.find? (entryIf (!(documentId document).isNull) "_id" (documentId document)) other =
      if "_id" = other then idOf? document else none := by
  have given : (documentId document).isNull = (idOf? document).isNone := by
    rw [Bool.eq_iff_iff, isNull_documentId, Option.isNone_iff_eq_none]
  rw [find?_entryIf, given, documentId_eq]
  cases idOf? document <;> simp

theorem own_documentActions (b : Builder) (index : String) (document : Entries) :
    ∃ item, documentActions b index document = item.lines ∧ Own b index document item := by
  refine ⟨⟨_, _⟩, rfl, ?_⟩
  constructor
  case index => simp [Table.find?_cons]
  case id =>
    simp [Table.find?_cons, Table.find?_append, find?_id, find?_entryUnlessFalsy]
  case routing =>
    simp [Table.find?_cons, Table.find?_append, find?_id, find?_entryUnlessFalsy]
  case parent =>
    simp [Table.find?_cons, Table.find?_append, find?_id, find?_entryUnlessFalsy]
  case only =>
    intro key mem
    have named : ∀ {present : Bool} {name v : Value}, key ∈ Table.keys (entryIf present name v) →
        key = name := by
      intro present name v mem
      cases present <;> simp_all [entryIf, Table.keys]
    simp only [Table.keys, List.map_cons, List.map_append, List.mem_cons, List.mem_append] at mem
    rcases mem with rfl | (id | routing) | parent
    · simp
    · simp [named id]
    · simp [named routing]
    · simp [named parent]
  case fields => exact fun key => Table.find?_without document reservedKeys key
  case order => exact List.filter_sublist

def childAction (index : String) (parent : Value) (child : Entries) : Entries :=
  [("_index", .str index), ("_id", Value.under child "id"), ("parent", parent)]

/-- The item of a child names its parent, and the child's document stands in it as it was given. -/
def ChildItem (index : String) (parent child : Value) (item : BulkItem) : Prop :=
  ∃ fields, child.entries? = some fields ∧ fields.has "id" = true ∧
    item.action = childAction index parent fields ∧
    ((Value.under fields "document").orElse (.map [])).toEntries = .ok item.document

theorem childActions_eq_ok {parent child : Value} {lines : List Value} :
    childActions index parent child = .ok lines ↔
      parent.isNull = false ∧ ∃ item, lines = item.lines ∧ ChildItem index parent child item := by
  unfold childActions
  simp only [unless_eq_ok, bind_eq_ok, lift_eq_ok, pure_eq_ok, Bool.not_eq_true]
  constructor
  · rintro ⟨given, present, held, kept, fields, tabled, document, read, rfl⟩
    have seen := Value.entries_eq_ok.mp tabled
    have has : fields.has "id" = true := by
      rw [Value.holds_of_entries? "id" seen] at held
      obtain rfl := Except.ok.inj held
      simpa using kept
    exact ⟨given, ⟨_, document⟩, rfl, fields, seen, has, rfl, read⟩
  · rintro ⟨given, ⟨action, document⟩, rfl, fields, seen, has, rfl, read⟩
    have held := Value.holds_of_entries? "id" seen
    rw [has] at held
    exact ⟨given, true, held, rfl, fields, Value.entries_eq_ok.mpr seen, document, read, rfl⟩

def childrenOf (document : Entries) : Value :=
  (Value.under document "child_documents").orElse (.list [])

theorem bulkDocument_eq (b : Builder) (index : String) {given : Value} {children : List Value}
    (seen : given.map? = some document) (listed : (childrenOf document).items = .ok children) :
    bulkDocument b index given =
      (do
        let inner ← children.mapM (childActions index (documentId document))
        return inner.flatten ++ documentActions b index document) := by
  unfold bulkDocument
  unfold childrenOf at listed
  simp only [seen, listed]
  rfl

/-- The items of a document: those of its children in their order, and then its own. -/
def DocumentItems (b : Builder) (index : String) (given : Value) (items : List BulkItem) : Prop :=
  ∃ document children inner own, given.map? = some document ∧
    (childrenOf document).items = .ok children ∧
    (children ≠ [] → idOf? document ≠ none) ∧
    List.Forall₂ (ChildItem index (documentId document)) children inner ∧
    Own b index document own ∧ items = inner ++ [own]

theorem childItems_of_mapM {parent : Value} {children : List Value} {lines : List (List Value)}
    (h : children.mapM (childActions index parent) = .ok lines) :
    ∃ inner, lines.flatten = BulkItem.body inner ∧
      (children ≠ [] → parent.isNull = false) ∧
      List.Forall₂ (ChildItem index parent) children inner := by
  induction children generalizing lines with
  | nil =>
    obtain rfl := pure_eq_ok.mp h
    exact ⟨[], rfl, fun none => absurd rfl none, .nil⟩
  | cons child rest ih =>
    obtain ⟨first, others, one, more, rfl⟩ := mapM_cons_eq_ok.mp h
    obtain ⟨given, item, rfl, written⟩ := childActions_eq_ok.mp one
    obtain ⟨inner, flat, -, all⟩ := ih more
    refine ⟨item :: inner, ?_, fun _ => given, .cons written all⟩
    rw [List.flatten_cons, flat]
    rfl

theorem bulkDocument_items {given : Value} {lines : List Value}
    (h : bulkDocument b index given = .ok lines) :
    ∃ items, lines = BulkItem.body items ∧ DocumentItems b index given items := by
  unfold bulkDocument at h
  split at h
  · rename_i document seen
    simp only [bind_eq_ok, lift_eq_ok, pure_eq_ok] at h
    obtain ⟨children, listed, lines, each, rfl⟩ := h
    obtain ⟨inner, flat, parent, written⟩ := childItems_of_mapM each
    obtain ⟨item, own, places⟩ := own_documentActions b index document
    refine ⟨inner ++ [item], ?_, document, children, inner, item, seen, listed, ?_, written,
      places, rfl⟩
    · rw [flat, own, BulkItem.body_append]
      simp [BulkItem.body]
    · intro some none
      rw [(isNull_documentId document).mpr none] at parent
      cases parent some
  · cases h

/-- A request that is written has the items of all documents in order, and each document has those
that it has in a request of its own. -/
theorem insertRequest_items {documents : List Value} {request : Entries}
    (h : d.insertRequest b documents = .ok request) :
    ∃ index groups, d.indexName b.index = .ok index ∧
      request = BulkItem.request groups.flatten ∧
      List.Forall₂ (fun given group => DocumentItems b index given group ∧
        d.insertRequest b [given] = .ok (BulkItem.request group))
        documents groups := by
  simp only [insertRequest, bind_eq_ok, pure_eq_ok] at h
  obtain ⟨index, named, lines, each, rfl⟩ := h
  refine ⟨index, ?_⟩
  induction documents generalizing lines with
  | nil =>
    obtain rfl := pure_eq_ok.mp each
    exact ⟨[], named, rfl, .nil⟩
  | cons given rest ih =>
    obtain ⟨first, others, one, more, rfl⟩ := mapM_cons_eq_ok.mp each
    obtain ⟨items, rfl, written⟩ := bulkDocument_items one
    obtain ⟨groups, -, same, all⟩ := ih others more
    have flat : others.flatten = BulkItem.body groups.flatten := by
      simpa [BulkItem.request] using same
    refine ⟨items :: groups, named, ?_, .cons ⟨written, ?_⟩ all⟩
    · simp [BulkItem.request, flat]
    · simp only [insertRequest, bind_eq_ok, pure_eq_ok]
      refine ⟨index, named, [BulkItem.body items], mapM_cons_eq_ok.mpr ⟨_, [], one, rfl, rfl⟩, ?_⟩
      simp [BulkItem.request]

end Dialect

end DocumentSearch
