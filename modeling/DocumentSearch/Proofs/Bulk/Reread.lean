import DocumentSearch.Reply
import DocumentSearch.Proofs.Bulk.Item

/-!
# Documents read back

What a bulk request stores comes back as a hit with the id and the parent of the action and, as its
source, the document that followed it. The document made of such a hit gives its id under another
key than the one that was stored may have, and is still written with the same action and the same
fields.
-/
namespace DocumentSearch

open Outcome

namespace Table

variable {κ α : Type} [BEq κ] {t : Table κ α} {dropped : List κ}

theorem without_without (t : Table κ α) (dropped : List κ) :
    (t.without dropped).without dropped = t.without dropped := by
  simp [without, List.filter_filter]

theorem without_insert [EquivBEq κ] {key : κ} (value : α) (out : dropped.contains key = true) :
    (t.insert key value).without dropped = t.without dropped := by
  induction t with
  | nil => simpa [insert, without] using out
  | cons p t ih =>
    obtain ⟨k, v⟩ := p
    by_cases same : k == key
    · have also : dropped.contains k = true := by
        rw [List.contains_eq_any_beq] at out ⊢
        simpa only [BEq.congr_left same] using out
      rw [insert, if_pos same]
      simp only [without, List.filter_cons, also]
      rfl
    · rw [without, without] at ih
      simp [insert, same, without, List.filter_cons, ih]

end Table

namespace BulkItem

/-- A hit for what an item stored: its id, its document and its parent if it has one. Hits say more
than that. -/
def Returned (item : BulkItem) (hit : Value) : Prop :=
  ∃ fields, hit.entries? = some fields ∧
    fields.find? "_id" = item.action.find? "_id" ∧
    fields.find? "_source" = some (.map item.document) ∧
    fields.find? "_parent" = item.action.find? "parent"

end BulkItem

namespace Dialect

variable {b reader : Builder} {given id : Value} {document : Entries}

/-- The item of a document when nothing but the document says where it goes. -/
def plainItem (index : String) (document : Entries) : BulkItem :=
  ⟨("_index", .str index) :: (entryIf (!(documentId document).isNull) "_id" (documentId document) ++
      entryUnlessFalsy "parent" (Value.under document "_parent")),
    document.without reservedKeys⟩

theorem plainItem_id (index : String) (document : Entries) :
    (plainItem index document).action.find? "_id" = idOf? document := by
  have parentless : Table.find? (entryUnlessFalsy "parent" (Value.under document "_parent")) "_id" =
      none := by
    simp [entryUnlessFalsy, find?_entryIf]
  simp [plainItem, Table.find?_cons, Table.find?_append, find?_id, parentless]

theorem plainItem_parent (index : String) (document : Entries) :
    (plainItem index document).action.find? "parent" =
      (some (Value.under document "_parent")).filter Value.truthy := by
  simp [plainItem, Table.find?_cons, Table.find?_append, entryUnlessFalsy, find?_entryIf,
    Option.filter]

theorem bulkDocument_plain (index : String) (unrouted : b.routing.truthy = false)
    (orphan : b.parentId.truthy = false) (table : given.map? = some document)
    (unplaced : (Value.under document "_routing").truthy = false)
    (childless : (Value.under document "child_documents").truthy = false) :
    bulkDocument b index given = .ok (plainItem index document).lines := by
  have none : (childrenOf document).items = .ok [] := by simp [childrenOf, Value.orElse, childless,
    Value.items, Value.items?]
  rw [bulkDocument_eq b index table none]
  simp [documentActions, entryUnlessFalsy, Value.orElse, unplaced, unrouted, orphan, entryIf,
    plainItem, BulkItem.lines, pure, Except.pure, bind, Except.bind]

theorem insertRequest_plain (d : Dialect) (named : b.index.truthy = true)
    (unrouted : b.routing.truthy = false) (orphan : b.parentId.truthy = false)
    (table : given.map? = some document)
    (unplaced : (Value.under document "_routing").truthy = false)
    (childless : (Value.under document "child_documents").truthy = false) :
    d.insertRequest b [given] =
      .ok (BulkItem.request [plainItem (b.index.text ++ d.suffix.text) document]) := by
  have item := bulkDocument_plain (b.index.text ++ d.suffix.text) unrouted orphan table unplaced
    childless
  simp [insertRequest, indexName, named, item, BulkItem.request, BulkItem.body, pure, Except.pure,
    bind, Except.bind]

def reread (document : Entries) : Entries :=
  ((document.without reservedKeys).insert "_id" (documentId document)).update
    (entryUnlessFalsy "_parent" (Value.under document "_parent"))

/-- A hit without a parent reads as one whose parent counts as false. -/
theorem document_of_returned {index : String} {hit : Value}
    (returned : (plainItem index document).Returned hit) :
    Reply.document false hit = .ok (.map (reread document)) := by
  obtain ⟨fields, seen, id, source, parent⟩ := returned
  rw [plainItem_id] at id
  rw [plainItem_parent] at parent
  have same : Value.under fields "_id" = documentId document := by
    rw [documentId_eq, Value.under, id]
  have body : ((Value.under fields "_source").orElse (.map [])).toEntries =
      .ok (plainItem index document).document := by
    rw [Value.under, source]
    exact Value.toEntries_orElse rfl
  have above : Reply.parentEntry fields =
      entryUnlessFalsy "_parent" (Value.under document "_parent") := by
    rw [Reply.parentEntry, Value.under, parent]
    cases truthy : (Value.under document "_parent").truthy <;>
      simp [Option.filter, entryUnlessFalsy, entryIf, truthy, Value.truthy]
  have table : hit.entries = .ok fields := Value.entries_eq_ok.mpr seen
  refine bind_eq_ok.mpr ⟨fields, table, bind_eq_ok.mpr ⟨_, body, ?_⟩⟩
  rw [same, above]
  rfl

theorem find?_reread (document : Entries) (key : String) :
    (reread document).find? key =
      if key = "_parent" ∧ (Value.under document "_parent").truthy = true then
        some (Value.under document "_parent")
      else if key = "_id" then some (documentId document)
      else (document.without reservedKeys).find? key := by
  rw [reread, entryUnlessFalsy, entryIf]
  cases truthy : (Value.under document "_parent").truthy with
  | true => simp [Table.update, Table.find?_insert]
  | false => simp [Table.update, Table.find?_insert]

theorem without_reread (document : Entries) :
    (reread document).without reservedKeys = document.without reservedKeys := by
  have reserved : ∀ key ∈ (["_id", "_parent"] : List Value), reservedKeys.contains key = true := by
    simp [reservedKeys]
  rw [reread, entryUnlessFalsy, entryIf]
  split <;>
    simp [Table.update, Table.without_insert _ (reserved _ _), Table.without_without]

theorem plainItem_reread (index : String) (document : Entries) :
    plainItem index (reread document) = plainItem index document := by
  have own : documentId (reread document) = documentId document := by
    simp [documentId, Value.under, find?_reread, Table.find?_without, reservedKeys]
  have above : entryUnlessFalsy "parent" (Value.under (reread document) "_parent") =
      entryUnlessFalsy "parent" (Value.under document "_parent") := by
    rw [Value.under, find?_reread]
    cases truthy : (Value.under document "_parent").truthy <;>
      simp [entryUnlessFalsy, entryIf, truthy, Table.find?_without, reservedKeys, Value.truthy]
  rw [plainItem, own, above, without_reread]
  rfl

/-- A document that the document alone places is written, read back and written again as the same
action with the same fields. -/
theorem insertRequest_reread (d : Dialect) (named : b.index.truthy = true)
    (unrouted : b.routing.truthy = false) (orphan : b.parentId.truthy = false)
    (folded : reader.expandInnerHits = false) (table : given.map? = some document)
    (identified : idOf? document = some id)
    (unplaced : (Value.under document "_routing").truthy = false)
    (childless : (Value.under document "child_documents").truthy = false) :
    ∃ item : BulkItem, d.insertRequest b [given] = .ok (BulkItem.request [item]) ∧
      item.action.find? "_id" = some id ∧
      ∀ hit, item.Returned hit → ∃ again,
        Reply.document reader.expandInnerHits hit = .ok again ∧
        d.insertRequest b [again] = .ok (BulkItem.request [item]) := by
  refine ⟨plainItem (b.index.text ++ d.suffix.text) document,
    insertRequest_plain d named unrouted orphan table unplaced childless, ?_, ?_⟩
  · rw [plainItem_id, identified]
  intro hit returned
  rw [folded]
  refine ⟨_, document_of_returned returned, ?_⟩
  have placed : ∀ key ∈ ["_routing", "child_documents"],
      Value.under (reread document) key = .null := by
    simp [Value.under, find?_reread, Table.find?_without, reservedKeys]
  rw [← plainItem_reread]
  exact insertRequest_plain d named unrouted orphan rfl (by rw [placed _ (by simp)]; rfl)
    (by rw [placed _ (by simp)]; rfl)

/-- A comment that was read once, with an id of its own and the one that it was stored under. -/
def comment : Entries := [("id", .int 7), ("text", "first"), ("_id", "c7"), ("_parent", "p1")]

def comments : Builder := { Builder.blank "id" with index := "comments" }

def storedComment : BulkItem :=
  ⟨[("_index", .str "comments"), ("_id", .int 7), ("parent", "p1")], [("text", "first")]⟩

/-- The comment is stored under its own id, and the one that is read back under the same. -/
theorem insertRequest_reread_comment :
    standard.insertRequest comments [.map comment] = .ok (BulkItem.request [storedComment]) ∧
      standard.insertRequest comments
        [.map [("text", "first"), ("_id", .int 7), ("_parent", "p1")]] =
          .ok (BulkItem.request [storedComment]) := by
  have spec := @insertRequest_reread comments comments (.map comment) (.int 7) comment standard
  obtain ⟨item, written, -, rewritten⟩ := spec rfl rfl rfl rfl rfl rfl rfl rfl
  have stored : standard.insertRequest comments [.map comment] =
      .ok (BulkItem.request [storedComment]) := rfl
  obtain ⟨action, document⟩ := item
  have same : action = storedComment.action ∧ document = storedComment.document := by
    simpa [BulkItem.request, BulkItem.body, BulkItem.lines] using written.symm.trans stored
  obtain ⟨rfl, rfl⟩ := same
  obtain ⟨again, read, same⟩ := rewritten (.map [("_index", "comments"), ("_id", .int 7),
    ("_parent", "p1"), ("_source", .map [("text", "first")])]) ⟨_, rfl, rfl, rfl, rfl⟩
  obtain rfl := Except.ok.inj read
  exact ⟨stored, same⟩

end Dialect

end DocumentSearch
