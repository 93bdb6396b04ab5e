import Mathlib.Algebra.GroupWithZero.Nat
import DocumentSearch.Proofs.Bulk.Item

/-!
# The encoding of a batch

A batch of documents whose children are tables is refused if it has no index, or if some document
with children lacks an id or has a child that does. Otherwise it is encoded document by document.
-/
namespace DocumentSearch

open Outcome

namespace Outcome

variable {α β γ : Type}

def Refused (x : Except Error α) : Prop := ∃ fault, x = .error (.invalidQuery fault)

theorem Refused.bind {x : Except Error α} (h : Refused x) (f : α → Except Error β) :
    Refused (x >>= f) := by
  obtain ⟨fault, rfl⟩ := h
  exact ⟨fault, rfl⟩

theorem Refused.ne_ok {x : Except Error α} (h : Refused x) (a : α) : x ≠ .ok a := by
  obtain ⟨fault, rfl⟩ := h
  exact nofun

/-- If each item is refused or done as what is read of it says, then so are all of them. -/
theorem mapM_cases {f : α → Except Error β} {Reads : α → γ → Prop} {Bad : γ → Prop} {l : List α}
    {m : List γ} (read : List.Forall₂ Reads l m)
    (fails : ∀ a c, Reads a c → Bad c → Refused (f a))
    (works : ∀ a c, Reads a c → ¬Bad c → ∃ b, f a = .ok b) :
    ((∃ c ∈ m, Bad c) → Refused (l.mapM f)) ∧
      ((∀ c ∈ m, ¬Bad c) → ∃ r, l.mapM f = .ok r) := by
  induction read with
  | nil => exact ⟨by simp, fun _ => ⟨[], rfl⟩⟩
  | @cons a c l m reads rest ih =>
    obtain ⟨refused, done⟩ := ih
    rw [List.mapM_cons]
    by_cases bad : Bad c
    · exact ⟨fun _ => (fails a c reads bad).bind _, fun none => absurd bad (none c (by simp))⟩
    · obtain ⟨b, first⟩ := works a c reads bad
      rw [first]
      constructor
      · rintro ⟨other, mem, worse⟩
        have later : other ∈ m := by
          rcases List.mem_cons.mp mem with rfl | later
          · exact absurd worse bad
          · exact later
        exact (refused ⟨other, later, worse⟩).bind _
      · intro none
        obtain ⟨r, all⟩ := done fun other mem => none other (List.mem_cons_of_mem _ mem)
        exact ⟨b :: r, by rw [all]; rfl⟩

end Outcome

open Dialect

structure Family where
  document : Entries
  children : List Entries

namespace Family

/-- A table with a table as its document, if it has any. -/
def Child (value : Value) (child : Entries) : Prop :=
  value.entries? = some child ∧ (Value.under child "document" = .null ∨
    ∃ fields, (Value.under child "document").entries? = some fields)

def inner (child : Entries) : Entries := (Value.under child "document").entries?.getD []

/-- A value that is a document whose children are tables. -/
structure Of (given : Value) (family : Family) : Prop where
  document : given.map? = some family.document
  children : ∃ values, (childrenOf family.document).items? = some values ∧
    List.Forall₂ Child values family.children

/-- Some child has no parent to name, or no id. -/
def Incomplete (family : Family) : Prop :=
  family.children ≠ [] ∧
    (idOf? family.document = none ∨ ∃ child ∈ family.children, child.has "id" = false)

/-- The items of a family, the children first. -/
def Encodes (b : Builder) (index : String) (family : Family) (items : List BulkItem) : Prop :=
  ∃ parent own, (family.children ≠ [] → idOf? family.document = some parent) ∧
    items = family.children.map (fun child => ⟨childAction index parent child, inner child⟩) ++
      [own] ∧ Own b index family.document own

variable {b : Builder} {index : String} {given parent value : Value} {family : Family}
  {child : Entries} {items : List BulkItem}

theorem Child.toEntries (h : Child value child) :
    ((Value.under child "document").orElse (.map [])).toEntries = .ok (inner child) := by
  rcases h.2 with null | ⟨fields, seen⟩
  · rw [inner, null]
    rfl
  · rw [inner, Value.toEntries_orElse seen, seen]
    rfl

theorem Child.refused (h : Child value child)
    (lacking : parent.isNull = true ∨ child.has "id" = false) :
    Refused (childActions index parent value) := by
  unfold childActions
  cases null : parent.isNull with
  | true => exact ⟨.childrenWithoutParentId, rfl⟩
  | false =>
    have missing : child.has "id" = false := by simpa [null] using lacking
    rw [Value.holds_of_entries? "id" h.1, missing]
    exact ⟨.childWithoutId parent, rfl⟩

theorem Child.done (h : Child value child)
    (complete : ¬(parent.isNull = true ∨ child.has "id" = false)) :
    ∃ lines, childActions index parent value = .ok lines := by
  obtain ⟨given, has⟩ := not_or.mp complete
  simp only [Bool.not_eq_true, Bool.not_eq_false] at given has
  exact ⟨_, childActions_eq_ok.mpr ⟨given, ⟨childAction index parent child, inner child⟩, rfl,
    child, h.1, has, rfl, h.toEntries⟩⟩

theorem incomplete_iff (family : Family) :
    family.Incomplete ↔ ∃ child ∈ family.children,
      (documentId family.document).isNull = true ∨ child.has "id" = false := by
  rw [Incomplete, isNull_documentId]
  constructor
  · rintro ⟨some, none | ⟨child, mem, missing⟩⟩
    · obtain ⟨child, mem⟩ := List.exists_mem_of_ne_nil _ some
      exact ⟨child, mem, .inl none⟩
    · exact ⟨child, mem, .inr missing⟩
  · rintro ⟨child, mem, lacking⟩
    exact ⟨List.ne_nil_of_mem mem, lacking.imp id fun missing => ⟨child, mem, missing⟩⟩

theorem Of.bulkDocument_cases (of : Of given family) (b : Builder) (index : String) :
    (family.Incomplete → Refused (bulkDocument b index given)) ∧
      (¬family.Incomplete → ∃ lines, bulkDocument b index given = .ok lines) := by
  obtain ⟨values, listed, tables⟩ := of.children
  rw [bulkDocument_eq b index of.document (by rw [Value.items, listed]), incomplete_iff]
  obtain ⟨fails, works⟩ := mapM_cases (f := childActions index (documentId family.document)) tables
    (fun value child => Child.refused) (fun value child => Child.done)
  refine ⟨fun lacking => (fails lacking).bind _, fun complete => ?_⟩
  obtain ⟨lines, done⟩ := works fun child mem lacking => complete ⟨child, mem, lacking⟩
  exact ⟨_, by rw [done]; rfl⟩

theorem childItems_eq {values : List Value} {children : List Entries} {inner : List BulkItem}
    (tables : List.Forall₂ Child values children)
    (written : List.Forall₂ (ChildItem index parent) values inner) :
    inner = children.map (fun child => ⟨childAction index parent child, Family.inner child⟩) := by
  induction tables generalizing inner with
  | nil =>
    cases written
    rfl
  | @cons value child values children reads rest ih =>
    cases written with
    | @cons _ item _ others first more =>
      obtain ⟨fields, seen, -, action, document⟩ := first
      obtain rfl : child = fields := Option.some.inj (reads.1.symm.trans seen)
      have same : Family.inner child = item.document :=
        Except.ok.inj (reads.toEntries.symm.trans document)
      rw [ih more, List.map_cons, ← action, same]

theorem Of.encodes (of : Of given family) (written : DocumentItems b index given items) :
    family.Encodes b index items := by
  obtain ⟨values, listed, tables⟩ := of.children
  obtain ⟨document, children, inner, own, seen, items', named, each, places, rfl⟩ := written
  obtain rfl : family.document = document := Option.some.inj (of.document.symm.trans seen)
  obtain rfl : values = children := by
    rw [Value.items, listed] at items'
    exact Except.ok.inj items'
  have same := childItems_eq tables each
  refine ⟨documentId family.document, own, fun some => ?_, by rw [same], places⟩
  have given : idOf? family.document ≠ none := named fun none => by
    rw [none] at tables
    exact some (List.forall₂_nil_left_iff.mp tables)
  obtain ⟨id, found⟩ := Option.ne_none_iff_exists'.mp given
  rw [documentId_eq, found]
  rfl

theorem Encodes.length (h : family.Encodes b index items) :
    items.length = 1 + family.children.length := by
  obtain ⟨parent, own, -, rfl, -⟩ := h
  simp
  omega

theorem length_groups {families : List Family} {groups : List (List BulkItem)}
    (encoded : List.Forall₂ (Encodes b index) families groups) :
    groups.flatten.length = (families.map (fun family => 1 + family.children.length)).sum := by
  induction encoded with
  | nil => rfl
  | cons first rest ih =>
    rw [List.flatten_cons, List.length_append, first.length, ih, List.map_cons, List.sum_cons]

theorem encodes_groups {documents : List Value} {families : List Family}
    {groups : List (List BulkItem)} (read : List.Forall₂ Of documents families)
    (written : List.Forall₂ (DocumentItems b index) documents groups) :
    List.Forall₂ (Encodes b index) families groups := by
  induction read generalizing groups with
  | nil =>
    cases written
    exact .nil
  | cons of rest ih =>
    cases written with
    | cons first more => exact .cons (of.encodes first) (ih more)

end Family

namespace Dialect

variable {d : Dialect} {b : Builder} {documents : List Value} {families : List Family}

theorem insertRequest_unnamed (d : Dialect) (unnamed : b.index.truthy = false)
    (documents : List Value) : Refused (d.insertRequest b documents) := by
  unfold insertRequest indexName
  rw [unnamed]
  exact ⟨.noIndex, rfl⟩

theorem indexName_named (d : Dialect) (named : b.index.truthy = true) :
    d.indexName b.index = .ok (b.index.text ++ d.suffix.text) := if_pos named

/-- A batch with an index is refused if some family in it is incomplete, and written if none is. -/
theorem insertRequest_cases (d : Dialect) (named : b.index.truthy = true)
    (read : List.Forall₂ Family.Of documents families) :
    ((∃ family ∈ families, family.Incomplete) → Refused (d.insertRequest b documents)) ∧
      ((∀ family ∈ families, ¬family.Incomplete) →
        ∃ request, d.insertRequest b documents = .ok request) := by
  obtain ⟨fails, works⟩ := mapM_cases (f := bulkDocument b (b.index.text ++ d.suffix.text)) read
    (fun given family of => (of.bulkDocument_cases b _).1)
    (fun given family of => (of.bulkDocument_cases b _).2)
  unfold insertRequest
  rw [indexName_named d named]
  refine ⟨fun incomplete => (fails incomplete).bind _, fun complete => ?_⟩
  obtain ⟨lines, done⟩ := works complete
  exact ⟨_, bind_eq_ok.mpr ⟨_, rfl, bind_eq_ok.mpr ⟨lines, done, rfl⟩⟩⟩

/-- A batch is refused exactly if it has no index or holds an incomplete family. Otherwise its body
is that of its documents one by one: for each child in order an action with its id and its parent's
and its document, and then the action of the document itself, with its id, its routing and its
parent, and what of its fields is not reserved. -/
theorem insertRequest_encodes (d : Dialect) (b : Builder)
    (read : List.Forall₂ Family.Of documents families) :
    (Refused (d.insertRequest b documents) ↔
      b.index.truthy = false ∨ ∃ family ∈ families, family.Incomplete) ∧
    (¬Refused (d.insertRequest b documents) → ∃ groups : List (List BulkItem),
      d.insertRequest b documents = .ok (BulkItem.request groups.flatten) ∧
      List.Forall₂ (fun given group => d.insertRequest b [given] = .ok (BulkItem.request group))
        documents groups ∧
      List.Forall₂ (Family.Encodes b (b.index.text ++ d.suffix.text)) families groups ∧
      (BulkItem.body groups.flatten).length =
        2 * (families.map (fun family => 1 + family.children.length)).sum) := by
  have refused_iff : Refused (d.insertRequest b documents) ↔
      b.index.truthy = false ∨ ∃ family ∈ families, family.Incomplete := by
    cases named : b.index.truthy with
    | false => simpa using insertRequest_unnamed d named documents
    | true =>
      obtain ⟨fails, works⟩ := insertRequest_cases d named read
      refine ⟨fun refused => .inr ?_, fun lacking => fails (by simpa using lacking)⟩
      by_contra none
      obtain ⟨request, done⟩ := works fun family mem lacking => none ⟨family, mem, lacking⟩
      exact refused.ne_ok request done
  refine ⟨refused_iff, fun accepted => ?_⟩
  obtain ⟨named, complete⟩ := not_or.mp (mt refused_iff.mpr accepted)
  simp only [Bool.not_eq_false] at named
  obtain ⟨request, done⟩ := (insertRequest_cases d named read).2 fun family mem lacking =>
    complete ⟨family, mem, lacking⟩
  obtain ⟨index, groups, found, rfl, written⟩ := insertRequest_items done
  obtain rfl : b.index.text ++ d.suffix.text = index :=
    Except.ok.inj ((indexName_named d named).symm.trans found)
  have encoded := Family.encodes_groups read (written.imp fun given group => And.left)
  refine ⟨groups, done, written.imp fun given group => And.right, encoded, ?_⟩
  rw [BulkItem.length_body, Family.length_groups encoded]

/-- A post with two comments, and a note that says where it belongs. -/
def thread : List Value :=
  [.map [("id", .int 1), ("title", "post"), ("child_documents", .list
      [.map [("id", .int 10), ("document", .map [("body", "first")])], .map [("id", .int 11)]])],
    .map [("_id", "a"), ("_routing", "south"), ("_parent", "p"), ("body", "note")]]

def threadFamilies : List Family :=
  [⟨[("id", .int 1), ("title", "post"), ("child_documents", .list
      [.map [("id", .int 10), ("document", .map [("body", "first")])], .map [("id", .int 11)]])],
    [[("id", .int 10), ("document", .map [("body", "first")])], [("id", .int 11)]]⟩,
    ⟨[("_id", "a"), ("_routing", "south"), ("_parent", "p"), ("body", "note")], []⟩]

def northern : Builder := { Builder.blank "id" with index := "posts", routing := "north" }

/-- The thread is written with eight entries, and without the id of the post it is refused. -/
theorem insertRequest_encodes_thread :
    List.Forall₂ Family.Of thread threadFamilies ∧
      (∃ groups : List (List BulkItem),
        Dialect.standard.insertRequest northern thread = .ok (BulkItem.request groups.flatten) ∧
        (BulkItem.body groups.flatten).length = 8) ∧
      Refused (Dialect.standard.insertRequest northern
        [.map [("child_documents", .list [.map [("id", .int 10)]])]]) := by
  have first : Family.Child (.map [("id", .int 10), ("document", .map [("body", "first")])])
      [("id", .int 10), ("document", .map [("body", "first")])] := ⟨rfl, .inr ⟨_, rfl⟩⟩
  have second : Family.Child (.map [("id", .int 11)]) [("id", .int 11)] := ⟨rfl, .inl rfl⟩
  have read : List.Forall₂ Family.Of thread threadFamilies :=
    .cons ⟨rfl, _, rfl, .cons first (.cons second .nil)⟩ (.cons ⟨rfl, [], rfl, .nil⟩ .nil)
  have accepted : ¬Refused (Dialect.standard.insertRequest northern thread) := fun refused =>
    refused.ne_ok _ rfl
  obtain ⟨-, encodes⟩ := insertRequest_encodes .standard northern read
  obtain ⟨groups, done, -, -, length⟩ := encodes accepted
  have lone : List.Forall₂ Family.Of [.map [("child_documents", .list [.map [("id", .int 10)]])]]
      [⟨[("child_documents", .list [.map [("id", .int 10)]])], [[("id", .int 10)]]⟩] :=
    .cons ⟨rfl, _, rfl, .cons ⟨rfl, .inl rfl⟩ .nil⟩ .nil
  refine ⟨read, ⟨groups, done, length⟩, (insertRequest_encodes .standard northern lone).1.mpr ?_⟩
  exact .inr ⟨_, List.mem_singleton.mpr rfl, by simp, .inl rfl⟩

end Dialect

end DocumentSearch
