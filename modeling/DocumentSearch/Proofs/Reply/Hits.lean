import Mathlib.Data.List.Forall2
import DocumentSearch.Proofs.Cache.Reply
import DocumentSearch.Proofs.Fragment.Monoid

/-!
# Documents of hits

Every hit of a reply is read as one document, in order. A document has the id of its hit and its
parent, if there is one, and otherwise what the source of the hit has. Inner hits are read into
groups of documents too, but there an id in the source stands for the id of the hit.
-/
namespace DocumentSearch

open Outcome

namespace Table

variable {κ α : Type} [BEq κ] [EquivBEq κ]

theorem find?_update {t u : Table κ α} (distinct : u.Distinct) (key : κ) :
    (t.update u).find? key = (u.find? key).or (t.find? key) := by
  induction u generalizing t with
  | nil => rfl
  | cons p u ih =>
    obtain ⟨k, v⟩ := p
    obtain ⟨first, rest⟩ := List.pairwise_cons.mp distinct
    have step : t.update ((k, v) :: u) = (t.insert k v).update u := rfl
    rw [step, ih rest, find?_insert, find?_cons]
    cases same : k == key with
    | false =>
      have other : (key == k) = false := BEq.symm_false same
      simp [other]
    | true =>
      -- no later pair has a key that counts as the same
      have absent : find? u key = none := find?_eq_none_iff.mpr fun l mem => by
        obtain ⟨q, inside, rfl⟩ := List.exists_of_mem_map mem
        rw [← BEq.congr_right same]
        exact BEq.symm_false (first q inside)
      simp [absent, BEq.symm same]

end Table

namespace Reply

def parentOf (hit : Value) : Value := Value.under hit.fieldsOf "_parent"

/-- The id that an inner hit is read with: that of its source, if there is one. -/
def readId (hit : Value) : Value := ((sourceOf hit).find? "_id").getD (idOf hit)

/-- A document with an id, which otherwise has what a source has. -/
structure Shows (id : Value) (source document : Entries) : Prop where
  id : document.find? "_id" = some id
  field : ∀ key, (key == "_id") = false → document.find? key = source.find? key

/-- A group of inner hits and what it is read as: one document for each of them, in order and with
the id that goes with it. -/
structure ShowsGroup (ids : Value → Value) (group shown : Value × Value) : Prop where
  name : shown.1 = group.1
  documents : ∃ documents, shown.2 = .list (documents.map .map) ∧
    List.Forall₂ (fun hit document => Shows (ids hit) (sourceOf hit) document) group.2.hitsOf
      documents

/-- A hit and the document that it is read as, whose inner documents have ids that go with their
hits. -/
structure Decodes (ids : Value → Value) (expand : Bool) (hit : Value) (document : Entries) :
    Prop where
  id : document.find? "_id" = some (idOf hit)
  parent : document.find? "_parent" =
    if (parentOf hit).truthy then some (parentOf hit) else (sourceOf hit).find? "_parent"
  field : ∀ key, (key == "_id") = false → (key == "_parent") = false →
    (key == "inner_hits") = false → document.find? key = (sourceOf hit).find? key
  expanded : expand = true → groupsOf hit ≠ [] → ∃ shown,
    document.find? "inner_hits" = some (.map shown) ∧
      List.Forall₂ (ShowsGroup ids) (groupsOf hit) shown
  unexpanded : expand = false ∨ groupsOf hit = [] →
    document.find? "inner_hits" = (sourceOf hit).find? "inner_hits"

variable {hit : Value} {group : Value × Value} {reply : Entries} {ids : Value → Value}

theorem readId_eq_idOf_iff :
    readId hit = idOf hit ↔ ∀ id, (sourceOf hit).find? "_id" = some id → id = idOf hit := by
  rw [readId]
  cases (sourceOf hit).find? "_id" <;> simp

theorem shows_iff (distinct : (sourceOf hit).Distinct) {id : Value} :
    Shows id (sourceOf hit) (innerFields hit) ↔ readId hit = id := by
  have read : ∀ key, (innerFields hit).find? key =
      ((sourceOf hit).find? key).or (if "_id" == key then some (idOf hit) else none) :=
    fun key => Table.find?_update distinct key
  have own : (innerFields hit).find? "_id" = some (readId hit) := by
    rw [read, readId]
    cases (sourceOf hit).find? "_id" <;> rfl
  constructor
  · intro shows
    exact Option.some.inj (own.symm.trans shows.id)
  · rintro rfl
    refine ⟨own, fun key other => ?_⟩
    rw [read, if_neg (by simp [BEq.symm_false other]), Option.or_none]

theorem showsGroup_iff (distinct : ∀ inner ∈ group.2.hitsOf, (sourceOf inner).Distinct) :
    ShowsGroup ids group (groupFields group) ↔
      ∀ inner ∈ group.2.hitsOf, readId inner = ids inner := by
  have shows : List.Forall₂ (fun hit document => Shows (ids hit) (sourceOf hit) document)
      group.2.hitsOf (group.2.hitsOf.map innerFields) ↔
        ∀ inner ∈ group.2.hitsOf, readId inner = ids inner := by
    rw [List.forall₂_map_right_iff, List.forall₂_same]
    exact forall₂_congr fun inner mem => shows_iff (distinct inner mem)
  rw [← shows]
  constructor
  · rintro ⟨-, documents, same, shown⟩
    have same := List.map_injective_iff.mpr (fun _ _ => Value.map.inj) (Value.list.inj same)
    rwa [same]
  · exact fun shown => ⟨rfl, _, rfl, shown⟩

theorem find?_parentEntry (hit key : Value) : (parentEntry hit.fieldsOf).find? key =
    if (parentOf hit).truthy && "_parent" == key then some (parentOf hit) else none := by
  change Table.find? (if (parentOf hit).truthy then [("_parent", parentOf hit)] else [] : Entries)
    key = _
  cases (parentOf hit).truthy <;> rfl

theorem find?_innerEntry (expand : Bool) (hit key : Value) : (innerEntry expand hit).find? key =
    if (expand && !(groupsOf hit).isEmpty) && "inner_hits" == key then
      some (.map ((groupsOf hit).map groupFields)) else none := by
  rw [innerEntry]
  cases expand && !(groupsOf hit).isEmpty <;> rfl

/-- The inner hits of a document come before its parent, this before its id, and this before what
the source has. -/
theorem find?_documentFields (expand : Bool) (hit key : Value) :
    (documentFields expand hit).find? key = ((innerEntry expand hit).find? key).or
      (((parentEntry hit.fieldsOf).find? key).or
        (if key == "_id" then some (idOf hit) else (sourceOf hit).find? key)) := by
  have inner : (innerEntry expand hit).Distinct := by
    unfold innerEntry
    split <;> simp [Table.Distinct]
  have parent : (parentEntry hit.fieldsOf).Distinct := by
    unfold parentEntry
    dsimp only
    split <;> simp [Table.Distinct]
  rw [documentFields, Table.find?_update inner, Table.find?_update parent, Table.find?_insert]

theorem decodes_iff {expand : Bool} (distinct : ∀ group ∈ groupsOf hit, ∀ inner ∈ group.2.hitsOf,
      (sourceOf inner).Distinct) :
    Decodes ids expand hit (documentFields expand hit) ↔
      (expand = true → ∀ group ∈ groupsOf hit, ∀ inner ∈ group.2.hitsOf,
        readId inner = ids inner) := by
  have groups : List.Forall₂ (ShowsGroup ids) (groupsOf hit) ((groupsOf hit).map groupFields) ↔
      ∀ group ∈ groupsOf hit, ∀ inner ∈ group.2.hitsOf, readId inner = ids inner := by
    rw [List.forall₂_map_right_iff, List.forall₂_same]
    exact forall₂_congr fun group mem => showsGroup_iff (distinct group mem)
  have placed : expand = true → groupsOf hit ≠ [] →
      (documentFields expand hit).find? "inner_hits" =
        some (.map ((groupsOf hit).map groupFields)) := by
    rintro rfl some
    rw [find?_documentFields, find?_innerEntry, if_pos (by simpa using some)]
    rfl
  constructor
  · intro decodes asked group mem
    have some : groupsOf hit ≠ [] := List.ne_nil_of_mem mem
    obtain ⟨shown, found, related⟩ := decodes.expanded asked some
    have same := Value.map.inj (Option.some.inj ((placed asked some).symm.trans found))
    rw [← same] at related
    exact groups.mp related group mem
  · intro kept
    constructor
    · rw [find?_documentFields, find?_innerEntry, find?_parentEntry]
      simp
    · rw [find?_documentFields, find?_innerEntry, find?_parentEntry]
      cases (parentOf hit).truthy <;> simp
    · intro key noId noParent noInner
      rw [find?_documentFields, find?_innerEntry, find?_parentEntry]
      simp [noId, BEq.symm_false noParent, BEq.symm_false noInner]
    · exact fun asked some => ⟨_, placed asked some, groups.mpr (kept asked)⟩
    · intro none
      rw [find?_documentFields, find?_innerEntry, find?_parentEntry]
      rcases none with rfl | none
      · simp
      · simp [none]

/-- A well-formed reply, whose sources like all tables repeat no key, gives one document for each
hit, in order. The documents have the ids of their hits, and so do all inner ones just if no source
of an inner hit has another id. -/
theorem process_decodes {response : Value} (expand : Bool) (earlier : Summary)
    (read : response.reply = .ok (.map reply)) (well : WellFormed reply)
    (distinct : ∀ hit ∈ (Value.map reply).hitsOf, ∀ group ∈ groupsOf hit,
      ∀ inner ∈ group.2.hitsOf, (sourceOf inner).Distinct) :
    ∃ documents : List Entries,
      (process expand response earlier).1 = .ok (documents.map .map) ∧
      List.Forall₂ (Decodes readId expand) (Value.map reply).hitsOf documents ∧
      (List.Forall₂ (Decodes idOf expand) (Value.map reply).hitsOf documents ↔
        (expand = true → ∀ hit ∈ (Value.map reply).hitsOf, ∀ group ∈ groupsOf hit,
          ∀ inner ∈ group.2.hitsOf, ∀ id, (sourceOf inner).find? "_id" = some id →
            id = idOf inner)) := by
  have decodes : ∀ ids, List.Forall₂ (Decodes ids expand) (Value.map reply).hitsOf
      ((Value.map reply).hitsOf.map (documentFields expand)) ↔
        ∀ hit ∈ (Value.map reply).hitsOf, expand = true → ∀ group ∈ groupsOf hit,
          ∀ inner ∈ group.2.hitsOf, readId inner = ids inner := by
    intro ids
    rw [List.forall₂_map_right_iff, List.forall₂_same]
    exact forall₂_congr fun hit mem => decodes_iff (distinct hit mem)
  refine ⟨(Value.map reply).hitsOf.map (documentFields expand), ?_, ?_, ?_⟩
  · rw [process_of_read expand earlier read, documents_eq expand well]
    rfl
  · exact (decodes readId).mpr fun hit _ _ group _ inner _ => rfl
  · rw [decodes idOf]
    constructor
    · intro kept asked hit mem group inside inner listed
      exact readId_eq_idOf_iff.mp (kept hit mem asked group inside inner listed)
    · intro kept hit mem asked group inside inner listed
      exact readId_eq_idOf_iff.mpr (kept asked hit mem group inside inner listed)

def storedComment : Value := .map [("_id", "c1"), ("_source", .map [("_id", "x"), ("text", "hi")])]

def commentedPost : Value :=
  .map [("_id", "1"), ("_source", .map [("title", "post")]),
    ("inner_hits", .map [("comments", .map [("hits", .map [("hits", .list [storedComment])])])])]

/-- The comment is read with the id in its source. -/
theorem process_decodes_comment :
    let reply : Entries := [("hits", .map [("hits", .list [commentedPost])])]
    WellFormed reply ∧ ∃ document,
      (process true (.map reply) .blank).1 = .ok [.map document] ∧
      Decodes readId true commentedPost document ∧ ¬Decodes idOf true commentedPost document := by
  intro reply
  have comment : InnerHit storedComment := ⟨_, rfl, by rintro _ ⟨⟩; exact .inr ⟨_, rfl⟩⟩
  have comments : HasInnerHits commentedPost.fieldsOf := by
    rintro _ ⟨⟩
    refine .inr ⟨_, rfl, List.forall_mem_singleton.mpr ⟨_, rfl, ?_⟩⟩
    rintro _ ⟨⟩
    refine ⟨_, rfl, ?_⟩
    rintro _ ⟨⟩
    exact ⟨_, rfl, List.forall_mem_singleton.mpr comment⟩
  have well : WellFormed reply := by
    rintro _ ⟨⟩
    refine ⟨_, rfl, ?_⟩
    rintro _ ⟨⟩
    refine ⟨_, rfl, List.forall_mem_singleton.mpr ⟨_, rfl, ?_, comments⟩⟩
    rintro _ ⟨⟩
    exact .inr ⟨_, rfl⟩
  have distinct : ∀ hit ∈ [commentedPost], ∀ group ∈ groupsOf hit, ∀ inner ∈ group.2.hitsOf,
      (sourceOf inner).Distinct := by
    refine List.forall_mem_singleton.mpr (List.forall_mem_singleton.mpr ?_)
    refine List.forall_mem_singleton.mpr ?_
    change Table.Distinct [((.str "_id" : Value), (.str "x" : Value)), (.str "text", .str "hi")]
    simp [Table.Distinct]
  have replied : (Value.map reply).reply = .ok (.map reply) := rfl
  obtain ⟨documents, read, decodes, kept⟩ := process_decodes true .blank replied well distinct
  cases decodes with
  | cons first rest =>
    cases rest
    refine ⟨well, _, read, first, fun identified => ?_⟩
    have same : Value.str "x" = .str "c1" := kept.mp (.cons identified .nil) rfl commentedPost
      List.mem_cons_self _ List.mem_cons_self storedComment List.mem_cons_self "x" rfl
    exact absurd (Value.str.inj same) (by decide)

end Reply

end DocumentSearch
