import DocumentSearch.Record.Basic
import DocumentSearch.Proofs.Bulk.Item

/-!
# Reserved keys in bulk requests

A document is written without its reserved keys, but the document of a child is written as it was
given. So a request is free of reserved keys exactly if the documents of all children are, and those
of child records never are.
-/
namespace DocumentSearch

open Outcome

namespace Record

variable {cls : RecordClass} {attributes : List (String × Value)} {fields : Entries}
  {value : Value} {children : List Value}

def childrenIn (cls : RecordClass) (attributes : List (String × Value)) :
    Except Error (List Value) :=
  inOrder cls.childAttributes (childrenFields cls attributes)

/-- The type, the id and the document of a record, as they go along with another one. -/
def Accompanies (value : Value) : Prop :=
  ∃ cls attributes fields, document cls attributes = .ok fields ∧
    value = .map [("type", .str cls.type), ("id", valueOf attributes "id"),
      ("document", .map fields)]

theorem document_eq_ok : document cls attributes = .ok fields ↔
    ∃ converted children, convertFields cls attributes = .ok converted ∧
      childrenIn cls attributes = .ok children ∧
      fields = assemble (valueOf attributes "id") converted children := by
  simp only [document, childrenIn, bind_eq_ok, pure_eq_ok, eq_comm (a := assemble _ _ _)]
  tauto

theorem find?_id_document (h : document cls attributes = .ok fields) :
    fields.find? "id" = some (valueOf attributes "id") := by
  obtain ⟨converted, children, -, -, rfl⟩ := document_eq_ok.mp h
  have written : ((converted.insert "id" (valueOf attributes "id")).erase "_id").find? "id" =
      some (valueOf attributes "id") := by
    rw [Table.find?_erase_of_ne _ (by simp), Table.find?_insert_self]
  unfold assemble
  cases children with
  | nil => exact written
  | cons first rest => rw [if_neg (by simp), Table.find?_insert_of_ne _ _ (by simp), written]

theorem find?_children_document (h : document cls attributes = .ok fields)
    (listed : childrenIn cls attributes = .ok children) (some' : children ≠ []) :
    fields.find? "child_documents" = some (.list children) := by
  obtain ⟨converted, others, -, same, rfl⟩ := document_eq_ok.mp h
  obtain rfl : children = others := Except.ok.inj (listed.symm.trans same)
  rw [assemble, if_neg (by simpa using some'), Table.find?_insert_self]

theorem child_accompanies (h : child value = .ok v) : Accompanies v := by
  cases value with
  | record cls attributes =>
    simp only [child, childDocument, bind_eq_ok] at h
    obtain ⟨converted, own, children, listed, h⟩ := h
    split at h
    · cases h
    · obtain rfl := Except.ok.inj h
      exact ⟨cls, attributes, _, document_eq_ok.mpr ⟨_, _, own, listed, rfl⟩, rfl⟩
  | _ => simp [child] at h

theorem childEach_accompanies {values : List Value} (h : childEach values = .ok children) :
    ∀ v ∈ children, Accompanies v := by
  induction values generalizing children with
  | nil =>
    obtain rfl := Except.ok.inj h
    simp
  | cons value rest ih =>
    simp only [childEach, bind_eq_ok, pure_eq_ok] at h
    obtain ⟨first, one, others, more, rfl⟩ := h
    exact List.forall_mem_cons.mpr ⟨child_accompanies one, ih more⟩

theorem childrenOf_accompanies (value : Value) {children : List Value}
    (h : childrenOf value = .ok children) : ∀ v ∈ children, Accompanies v := by
  match value with
  | .list items => exact childEach_accompanies h
  | .tuple items => exact childEach_accompanies h
  | .view _ _ contents => exact childrenOf_accompanies contents h
  | .null | .bool _ | .int _ | .float _ | .str _ | .bytes _ | .map _ | .date _ | .moment _
  | .unit _ | .point _ | .bounds _ | .builder _ | .record _ _ | .response _ | .convertible _
  | .clause _ | .order _ | .aggregation _ | .entity _ _ | .handle _ =>
    simp only [childrenOf] at h
    split at h
    · cases h
    · obtain rfl := Except.ok.inj h
      simp

theorem childrenFields_accompany
    (found : Table.find? (childrenFields cls attributes) name = some (.ok children)) :
    ∀ v ∈ children, Accompanies v := by
  induction attributes with
  | nil => cases found
  | cons p rest ih =>
    obtain ⟨key, value⟩ := p
    rw [childrenFields, childrenField, Table.find?_cons] at found
    split at found
    · have own := Option.some.inj found
      split at own
      · exact childrenOf_accompanies value own
      · obtain rfl := Except.ok.inj own
        simp
    · exact ih found

theorem childrenIn_accompany (h : childrenIn cls attributes = .ok children) :
    ∀ v ∈ children, Accompanies v := by
  simp only [childrenIn, inOrder, bind_eq_ok, pure_eq_ok] at h
  obtain ⟨lists, each, rfl⟩ := h
  refine List.forall_mem_flatten.mpr fun list mem => ?_
  obtain ⟨name, -, under⟩ := exists_mem_of_forall₂ (forall₂_of_mapM each) list mem
  cases found : Table.find? (childrenFields cls attributes) name with
  | none =>
    rw [found] at under
    obtain rfl := Except.ok.inj under
    simp
  | some outcome =>
    rw [found] at under
    obtain rfl : outcome = .ok list := under
    exact childrenFields_accompany found

end Record

namespace Dialect

variable {d : Dialect} {b : Builder} {index : String} {documents : List Value} {given : Value}
  {document inner : Entries} {item : BulkItem} {items : List BulkItem} {request : Entries}

def Unreserved (document : Entries) : Prop := ∀ key ∈ reservedKeys, document.has key = false

/-- The document in a child, empty if there is none. -/
def Contains (child : Value) (inner : Entries) : Prop :=
  ∃ fields, child.entries? = some fields ∧
    ((Value.under fields "document").orElse (.map [])).toEntries = .ok inner

/-- The document of one of the children that a document is given with. -/
def ChildDocument (given : Value) (inner : Entries) : Prop :=
  ∃ document children, given.map? = some document ∧ (childrenOf document).items = .ok children ∧
    ∃ child ∈ children, Contains child inner

theorem Contains.unique {child : Value} {other : Entries} (h : Contains child inner)
    (h' : Contains child other) : inner = other := by
  obtain ⟨fields, tabled, read⟩ := h
  obtain ⟨others, tabled', read'⟩ := h'
  obtain rfl : fields = others := Option.some.inj (tabled.symm.trans tabled')
  exact Except.ok.inj (read.symm.trans read')

theorem ChildItem.contains {parent child : Value} (h : ChildItem index parent child item) :
    Contains child item.document := by
  obtain ⟨fields, tabled, -, -, read⟩ := h
  exact ⟨fields, tabled, read⟩

theorem Own.unreserved (own : Own b index document item) : Unreserved item.document := by
  intro key reserved
  have listed : reservedKeys.contains key = true :=
    List.contains_iff_exists_mem_beq.mpr ⟨key, reserved, BEq.rfl⟩
  rw [Table.has, own.fields, if_pos listed]
  rfl

/-- What holds of every document without reserved keys holds of all that is written for a document
exactly if it holds of the documents of its children. -/
theorem DocumentItems.forall_document_iff {P : Entries → Prop}
    (free : ∀ document, Unreserved document → P document)
    (written : DocumentItems b index given items) :
    (∀ item ∈ items, P item.document) ↔ ∀ inner, ChildDocument given inner → P inner := by
  obtain ⟨document, children, inner, own, seen, listed, -, each, places, rfl⟩ := written
  have ofChildren : (∀ item ∈ inner, P item.document) ↔
      ∀ child ∈ children, ∀ inner, Contains child inner → P inner :=
    forall_mem_iff_of_forall₂ each fun child item written =>
      ⟨fun holds _ other => written.contains.unique other ▸ holds,
        fun all => all _ written.contains⟩
  have ofOwn : P own.document := free _ places.unreserved
  rw [List.forall_mem_append, List.forall_mem_singleton, and_iff_left ofOwn, ofChildren]
  constructor
  · rintro all inner ⟨other, others, seen', listed', child, mem, contains⟩
    obtain rfl : document = other := Option.some.inj (seen.symm.trans seen')
    obtain rfl : children = others := Except.ok.inj (listed.symm.trans listed')
    exact all child mem inner contains
  · exact fun all child mem inner contains =>
      all inner ⟨document, children, seen, listed, child, mem, contains⟩

theorem DocumentItems.children_own (written : DocumentItems b index given items) :
    ∃ inner own, items = inner ++ [own] ∧ Unreserved own.document ∧
      ∀ item ∈ inner, ChildDocument given item.document := by
  obtain ⟨document, children, inner, own, seen, listed, -, each, places, rfl⟩ := written
  refine ⟨inner, own, rfl, places.unreserved, fun item mem => ?_⟩
  obtain ⟨child, mem, written⟩ := exists_mem_of_forall₂ each item mem
  exact ⟨document, children, seen, listed, child, mem, written.contains⟩

theorem forall_document_iff {P : Entries → Prop} {groups : List (List BulkItem)}
    (free : ∀ document, Unreserved document → P document)
    (written : List.Forall₂ (DocumentItems b index) documents groups) :
    (∀ item ∈ groups.flatten, P item.document) ↔
      ∀ given ∈ documents, ∀ inner, ChildDocument given inner → P inner := by
  rw [List.forall_mem_flatten]
  exact forall_mem_iff_of_forall₂ written fun given group each => each.forall_document_iff free

theorem childDocument_of_record {cls : RecordClass} {attributes : List (String × Value)}
    {children : List Value} (made : Record.document cls attributes = .ok document)
    (listed : Record.childrenIn cls attributes = .ok children) (some : children ≠ []) :
    ∃ inner, ChildDocument (.map document) inner ∧ inner.has "id" = true := by
  have seen : (childrenOf document).items = .ok children := by
    have truthy : (Value.list children).truthy = true := by simpa [Value.truthy] using some
    rw [childrenOf, Value.under, Record.find?_children_document made listed some, Option.getD_some,
      Value.orElse, if_pos truthy]
    rfl
  obtain ⟨child, mem⟩ := List.exists_mem_of_ne_nil _ some
  obtain ⟨cls', attributes', fields, own, rfl⟩ := Record.childrenIn_accompany listed child mem
  have contains : Contains (.map [("type", .str cls'.type), ("id", Record.valueOf attributes' "id"),
      ("document", .map fields)]) fields := ⟨_, rfl, Value.toEntries_orElse rfl⟩
  refine ⟨fields, ⟨document, children, rfl, seen, _, mem, contains⟩, ?_⟩
  rw [Table.has, Record.find?_id_document own]
  rfl

/-- A request is made of the items of its documents: those of the children with their documents as
they are given, and one without reserved keys. So there is no reserved key in it exactly if there is
none in the document of any child, and there is an id in it if any record has a child. -/
theorem insertRequest_unreserved_iff (h : d.insertRequest b documents = .ok request) :
    ∃ groups : List (List BulkItem), request = BulkItem.request groups.flatten ∧
      List.Forall₂ (fun given group => ∃ inner own, group = inner ++ [own] ∧
        Unreserved own.document ∧ ∀ item ∈ inner, ChildDocument given item.document)
        documents groups ∧
      ((∀ item ∈ groups.flatten, Unreserved item.document) ↔
        ∀ given ∈ documents, ∀ inner, ChildDocument given inner → Unreserved inner) ∧
      ∀ cls attributes document children, Record.document cls attributes = .ok document →
        Record.childrenIn cls attributes = .ok children → children ≠ [] →
        .map document ∈ documents → ∃ item ∈ groups.flatten, item.document.has "id" = true := by
  obtain ⟨index, groups, -, rfl, written⟩ := insertRequest_items h
  have items := written.imp fun given group => And.left
  refine ⟨groups, rfl, items.imp fun given group each => each.children_own,
    forall_document_iff (fun _ => id) items, ?_⟩
  intro cls attributes document children made listed some mem
  obtain ⟨inner, brought, id⟩ := childDocument_of_record made listed some
  by_contra none
  have free : ∀ item ∈ groups.flatten, item.document.has "id" = false := by simpa using none
  have lacking := (forall_document_iff (P := fun document => document.has "id" = false)
    (fun document unreserved => unreserved "id" (by simp [reservedKeys])) items).mp free
  simp [lacking _ mem inner brought] at id

def postClass : RecordClass := ⟨"Post", some "posts", none, ["comments"], false, true⟩

def commentClass : RecordClass := ⟨"Comment", none, some "comment", [], false, true⟩

def commented : List (String × Value) :=
  [("id", .int 1), ("title", "hello"),
    ("comments", .list [.record commentClass [("id", .int 10), ("body", "hi")]])]

def commentedDocument : Entries :=
  [("id", .int 1), ("title", "hello"), ("comments", .list [.map [("id", .int 10), ("body", "hi")]]),
    ("child_documents", .list [.map [("type", "comment"), ("id", .int 10),
      ("document", .map [("id", .int 10), ("body", "hi")])]])]

def commentedRequest : Entries :=
  [("body", .list [
    .map [("index", .map [("_index", "posts"), ("_id", .int 10), ("parent", .int 1)])],
    .map [("id", .int 10), ("body", "hi")],
    .map [("index", .map [("_index", "posts"), ("_id", .int 1)])],
    .map [("title", "hello"), ("comments", .list [.map [("id", .int 10), ("body", "hi")]])]])]

/-- The comment is written with its id in its document. -/
theorem insertRequest_unreserved_iff_comment :
    Record.document postClass commented = .ok commentedDocument ∧
      Dialect.standard.insertRequest postClass.newQuery [.map commentedDocument] =
        .ok commentedRequest ∧
      ∃ groups : List (List BulkItem), commentedRequest = BulkItem.request groups.flatten ∧
        ∃ item ∈ groups.flatten, item.document.has "id" = true := by
  obtain ⟨groups, written, -, -, records⟩ := insertRequest_unreserved_iff
    (show Dialect.standard.insertRequest postClass.newQuery [.map commentedDocument] =
      .ok commentedRequest from rfl)
  exact ⟨rfl, rfl, groups, written, records postClass commented commentedDocument _ rfl rfl
    (by simp) List.mem_cons_self⟩

end Dialect

end DocumentSearch
