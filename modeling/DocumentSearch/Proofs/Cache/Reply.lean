import DocumentSearch.Connection.Client
import DocumentSearch.Proofs.Value.Entries
import DocumentSearch.Reply

/-!
# Well-formed replies

A reply may lack its hits, a hit its source and its inner hits. Where these are given they are
tables and lists of tables, and then every hit can be read as a document.
-/
namespace DocumentSearch

open Outcome

namespace Value

/-- The hits that a reply lists; a reply that lists none has none. -/
def hitsOf (v : Value) : List Value :=
  ((under (under v.fieldsOf "hits").fieldsOf "hits").items?).getD []

theorem items?_getD {given : Option Value} {items : List Value}
    (listed : (given.getD (.list [])).items? = some items) :
    ((given.getD .null).items?).getD [] = items := by
  cases given with
  | none =>
    cases listed
    rfl
  | some given => exact congrArg (Option.getD · []) listed

end Value

namespace Reply

/-- The hits of a reply are a list in a table, and all of them are of a kind. -/
def HasHits (kind : Value → Prop) (reply : Entries) : Prop :=
  ∀ found, reply.find? "hits" = some found → ∃ table, found.entries? = some table ∧
    ∀ batch, table.find? "hits" = some batch → ∃ hits, batch.items? = some hits ∧
      ∀ hit ∈ hits, kind hit

def HasSource (hit : Entries) : Prop :=
  ∀ source, hit.find? "_source" = some source → source = .null ∨
    ∃ fields, source.entries? = some fields

def InnerHit (hit : Value) : Prop := ∃ entries, hit.entries? = some entries ∧ HasSource entries

/-- Inner hits are missing, null or a table of replies. -/
def HasInnerHits (hit : Entries) : Prop :=
  ∀ inner, hit.find? "inner_hits" = some inner → inner = .null ∨
    ∃ groups, inner.entries? = some groups ∧ ∀ group ∈ groups,
      ∃ reply, group.2.entries? = some reply ∧ HasHits InnerHit reply

def Hit (hit : Value) : Prop :=
  ∃ entries, hit.entries? = some entries ∧ HasSource entries ∧ HasInnerHits entries

/-- A reply in which everything that is given is of the right kind. -/
def WellFormed (reply : Entries) : Prop := HasHits Hit reply

def documents (expandInnerHits : Bool) (reply : Entries) : Except Misuse (List Value) := do
  (← (Value.map reply).hits).mapM (document expandInnerHits)

variable {v hit : Value} {group : Value × Value} {reply : Entries} {kind : Value → Prop}

/-! ## The parts of a hit -/

def idOf (hit : Value) : Value := Value.under hit.fieldsOf "_id"

def sourceOf (hit : Value) : Entries := (Value.under hit.fieldsOf "_source").fieldsOf

/-- The groups of inner hits, each under its name. -/
def groupsOf (hit : Value) : Entries := (Value.under hit.fieldsOf "inner_hits").fieldsOf

theorem HasHits.table (has : HasHits kind reply) :
    ∃ table, ((reply.find? "hits").getD (.map [])).entries? = some table ∧
      ∀ batch, table.find? "hits" = some batch → ∃ hits, batch.items? = some hits ∧
        ∀ hit ∈ hits, kind hit := by
  cases found : reply.find? "hits" with
  | none => exact ⟨[], rfl, nofun⟩
  | some given => exact has given found

theorem hitsOf_ok (seen : v.entries? = some reply) (has : HasHits kind reply) :
    v.hits = .ok v.hitsOf ∧ ∀ hit ∈ v.hitsOf, kind hit := by
  obtain ⟨table, tabled, batches⟩ := has.table
  have inner : ∃ hits, ((table.find? "hits").getD (.list [])).items? = some hits ∧
      ∀ hit ∈ hits, kind hit := by
    cases found : table.find? "hits" with
    | none => exact ⟨[], rfl, nofun⟩
    | some batch => exact batches batch found
  obtain ⟨hits, listed, all⟩ := inner
  have found : v.hits = .ok hits := by
    have batch : v.batch = .ok ((table.find? "hits").getD (.list [])) :=
      bind_eq_ok.mpr ⟨_, Value.get_eq seen _ _, Value.get_eq tabled _ _⟩
    refine bind_eq_ok.mpr ⟨_, batch, ?_⟩
    rw [Value.items, listed]
  have same : v.hitsOf = hits := by
    have inside : (Value.under reply "hits").fieldsOf = table := Value.fieldsOf_getD tabled
    rw [Value.hitsOf, Value.fieldsOf_eq seen, inside]
    exact Value.items?_getD listed
  rw [same]
  exact ⟨found, all⟩

theorem entries?_source (has : HasSource hit.fieldsOf) :
    ((Value.under hit.fieldsOf "_source").orElse (.map [])).entries? = some (sourceOf hit) := by
  rw [sourceOf]
  unfold Value.under
  cases given : Table.find? hit.fieldsOf "_source" with
  | none => rfl
  | some source =>
    rcases has source given with rfl | ⟨fields, seen⟩
    · rfl
    · rw [Option.getD_some, Value.fieldsOf_eq seen]
      exact Value.entries?_orElse seen

theorem groupsOf_cases (has : HasInnerHits hit.fieldsOf) :
    ((Value.under hit.fieldsOf "inner_hits").truthy = false ∧ groupsOf hit = []) ∨
      (Value.under hit.fieldsOf "inner_hits").truthy = !(groupsOf hit).isEmpty ∧
        (Value.under hit.fieldsOf "inner_hits").entries? = some (groupsOf hit) ∧
        ∀ group ∈ groupsOf hit,
          ∃ reply, group.2.entries? = some reply ∧ HasHits InnerHit reply := by
  rw [groupsOf]
  unfold Value.under
  cases given : Table.find? hit.fieldsOf "inner_hits" with
  | none => exact .inl ⟨rfl, rfl⟩
  | some inner =>
    rcases has inner given with rfl | ⟨groups, seen, each⟩
    · exact .inl ⟨rfl, rfl⟩
    · rw [Option.getD_some, Value.fieldsOf_eq seen]
      exact .inr ⟨Value.truthy_of_entries? seen, seen, each⟩

/-! ## What hits are read as -/

def innerFields (hit : Value) : Entries := Table.update [("_id", idOf hit)] (sourceOf hit)

def groupFields (group : Value × Value) : Value × Value :=
  (group.1, .list ((group.2.hitsOf.map innerFields).map .map))

def innerEntry (expandInnerHits : Bool) (hit : Value) : Entries :=
  if expandInnerHits && !(groupsOf hit).isEmpty then
    [("inner_hits", .map ((groupsOf hit).map groupFields))] else []

def documentFields (expandInnerHits : Bool) (hit : Value) : Entries :=
  (((sourceOf hit).insert "_id" (idOf hit)).update (parentEntry hit.fieldsOf)).update
    (innerEntry expandInnerHits hit)

theorem innerDocument_eq (well : InnerHit hit) :
    innerDocument hit = .ok (.map (innerFields hit)) := by
  obtain ⟨entries, seen, source⟩ := well
  obtain rfl := Value.fieldsOf_eq seen
  exact bind_eq_ok.mpr ⟨_, Value.entries_eq seen,
    bind_eq_ok.mpr ⟨_, Value.entries_eq (entries?_source source), rfl⟩⟩

theorem innerGroup_eq (seen : group.2.entries? = some reply) (has : HasHits InnerHit reply) :
    innerGroup group = .ok (groupFields group) := by
  obtain ⟨found, all⟩ := hitsOf_ok seen has
  have read : group.2.hitsOf.mapM innerDocument =
      .ok (group.2.hitsOf.map fun hit => .map (innerFields hit)) :=
    mapM_eq_map fun hit mem => innerDocument_eq (all hit mem)
  refine bind_eq_ok.mpr ⟨_, found, bind_eq_ok.mpr ⟨_, read, ?_⟩⟩
  rw [groupFields, List.map_map]
  rfl

theorem innerHitsEntry_eq (expandInnerHits : Bool) (has : HasInnerHits hit.fieldsOf) :
    innerHitsEntry expandInnerHits hit.fieldsOf = .ok (innerEntry expandInnerHits hit) := by
  unfold innerHitsEntry innerEntry
  rcases groupsOf_cases has with ⟨falsy, empty⟩ | ⟨truthy, seen, each⟩
  · simp only [falsy, empty]
    cases expandInnerHits <;> rfl
  · have read : (groupsOf hit).mapM innerGroup = .ok ((groupsOf hit).map groupFields) :=
      mapM_eq_map fun group mem => by
        obtain ⟨reply, replied, has⟩ := each group mem
        exact innerGroup_eq replied has
    simp only [truthy]
    split
    · exact bind_eq_ok.mpr ⟨_, Value.entries_eq seen, bind_eq_ok.mpr ⟨_, read, rfl⟩⟩
    · rfl

theorem document_eq (expandInnerHits : Bool) (well : Hit hit) :
    document expandInnerHits hit = .ok (.map (documentFields expandInnerHits hit)) := by
  obtain ⟨entries, seen, source, inner⟩ := well
  obtain rfl := Value.fieldsOf_eq seen
  have tabled : ((Value.under hit.fieldsOf "_source").orElse (.map [])).toEntries =
      .ok (sourceOf hit) := by
    rw [Value.toEntries, entries?_source source]
  exact bind_eq_ok.mpr ⟨_, Value.entries_eq seen, bind_eq_ok.mpr ⟨_, tabled,
    bind_eq_ok.mpr ⟨_, innerHitsEntry_eq expandInnerHits inner, rfl⟩⟩⟩

theorem documents_eq (expandInnerHits : Bool) (well : WellFormed reply) :
    documents expandInnerHits reply =
      .ok (((Value.map reply).hitsOf.map (documentFields expandInnerHits)).map .map) := by
  obtain ⟨found, all⟩ := hitsOf_ok (v := .map reply) rfl well
  rw [List.map_map]
  exact bind_eq_ok.mpr ⟨_, found,
    mapM_eq_map fun hit mem => document_eq expandInnerHits (all hit mem)⟩

theorem process_of_unread {response : Value} (expandInnerHits : Bool) (earlier : Summary)
    (unread : ∀ reply, response.reply ≠ .ok (.map reply)) :
    ∃ e, process expandInnerHits response earlier = (.error e, earlier) := by
  unfold process
  split
  · exact ⟨_, rfl⟩
  · rename_i replied
    split
    · exact absurd replied (unread _)
    · exact ⟨_, rfl⟩

theorem process_of_read {response : Value} (expandInnerHits : Bool) (earlier : Summary)
    (read : response.reply = .ok (.map reply)) :
    process expandInnerHits response earlier =
      (Misuse.lift (documents expandInnerHits reply), .ofReply reply) := by
  rw [process, read]
  rfl

end Reply

/-- The table that an answer to a search is read as, if it can be. -/
def Answer.table? : Answer → Option Entries
  | .value v =>
    match v.reply >>= Value.reply with
    | .ok (.map reply) => some reply
    | _ => none
  | _ => none

/-- A server whose answers to searches, as far as they are replies at all, are well-formed. -/
def Server.RepliesWell (server : Server) : Prop :=
  ∀ earlier call reply, call.method = "search" → (server earlier call).table? = some reply →
    Reply.WellFormed reply

end DocumentSearch
