import DocumentSearch.Proofs.Bulk.Account
import DocumentSearch.Proofs.Text.Unbroken

/-!
# The lines of a summary

A summary has its heading and then the diagnosis of each failure that is shown. A diagnosis takes
one line more than there are line breaks in the texts that it puts together: the id, the reason and
what is told of the cause. Values that are nested there never bring any.
-/
namespace DocumentSearch

/-- The line breaks in the texts of a diagnosis. -/
def BulkError.breaks (e : BulkError) : Nat :=
  e.docId.breaks + e.reason.breaks + ((Table.values e.causedBy).map Value.breaks).sum

/-- An error that shows nothing but what a reply can be made of. -/
structure BulkError.ShowsJson (e : BulkError) : Prop where
  docId : e.docId.isJson = true
  reason : e.reason.isJson = true
  causedBy : (Value.map e.causedBy).isJson = true

theorem BulkError.breaks_describe {e : BulkError} (h : e.ShowsJson) :
    Text.breaks e.describe = e.breaks := by
  have cause : (Table.values e.causedBy).map (Text.breaks ∘ Value.text) =
      (Table.values e.causedBy).map Value.breaks := by
    refine List.map_congr_left fun v mem => Value.breaks_text ?_
    obtain ⟨p, there, rfl⟩ := List.mem_map.mp mem
    exact Value.isJson_of_mem h.causedBy there
  unfold BulkError.describe
  rw [Text.breaks_joined (by decide), List.map_cons, List.map_cons, List.map_map, List.sum_cons,
    List.sum_cons, Value.breaks_text h.docId, Value.breaks_text h.reason, cause, ← Nat.add_assoc,
    breaks]

namespace BulkResult

variable {response error item : Value} {reply detail fields cause : Entries} {items : List Value}
  {action : Value × Entries} {e : BulkError}

theorem detail_isJson (json : item.isJson = true) (h : item.action? = some action) :
    (Value.map action.2).isJson = true := by
  obtain ⟨-, outcome, rest, isTable, isDetail⟩ := action?_eq_some.mp h
  have entries := Value.isJson_of_entries? json isTable
  exact Value.isJson_of_entries? (Value.isJson_of_mem entries List.mem_cons_self) isDetail

theorem told_isJson (json : error.isJson = true) (h : told error = .ok fields) :
    (Value.map fields).isJson = true := by
  unfold told at h
  split at h
  · cases h
    rfl
  · exact Value.isJson_of_entries? json (Value.entries_eq_ok.mp h)

theorem causeOf_isJson (json : (Value.map fields).isJson = true)
    (table : (Value.under fields "caused_by").truthy = true →
      ∃ entries, (Value.under fields "caused_by").entries? = some entries)
    (h : causeOf fields = .ok cause) : (Value.map cause).isJson = true := by
  rcases causeOf_cases table with none | ⟨entries, isTable, some⟩
  · rw [none] at h
    cases h
    rfl
  · rw [some] at h
    cases h
    exact Value.isJson_of_entries? (Value.isJson_under json _) isTable

theorem Becomes.showsJson (becomes : Becomes action e)
    (json : (Value.map action.2).isJson = true)
    (failure : (Value.under action.2 "error").IsFailure) : e.ShowsJson := by
  obtain ⟨fields, cause, read, caused, rfl⟩ := failure_eq_ok.mp becomes
  have told := told_isJson (Value.isJson_under json "error") read
  obtain ⟨same, read', table⟩ := told_of_isFailure failure
  obtain rfl : same = fields := Except.ok.inj (read'.symm.trans read)
  exact ⟨Value.isJson_under json _, Value.isJson_getD told _ rfl, causeOf_isJson told table caused⟩

theorem isFailure_of_failure? (isItem : item.IsItem) (h : item.failure? = some action) :
    (Value.under action.2 "error").IsFailure := by
  cases isItem with
  | empty none =>
    rw [failure?_of_empty none] at h
    cases h
  | action same failure =>
    obtain ⟨tells, failed⟩ := Option.filter_eq_some_iff.mp h
    obtain rfl := Option.some.inj (same.symm.trans tells)
    exact failure failed

theorem Accounts.showsJson {result : BulkResult} (h : result.Accounts items)
    (each : ∀ item ∈ items, item.IsItem) (json : ∀ item ∈ items, item.isJson = true) :
    ∀ e ∈ result.errors, e.ShowsJson := by
  intro e mem
  obtain ⟨action, there, becomes⟩ := exists_mem_of_forall₂ h.errors e mem
  obtain ⟨item, inside, failed⟩ := List.mem_filterMap.mp there
  have detail := detail_isJson (json item inside) (Option.filter_eq_some_iff.mp failed).1
  exact becomes.showsJson detail (isFailure_of_failure? (each item inside) failed)

/-- A summary takes a line for its heading, one for each failure that it shows, and one for each
line break in what these show; so every failure has its one line as long as there are none. -/
theorem summary_lines {limit : Int} (positive : 1 ≤ limit)
    (isReply : response.entries? = some reply) (json : (Value.map reply).isJson = true)
    (listed : ((Table.find? reply "items").getD (.list [])).items? = some items)
    (each : ∀ item ∈ items, item.IsItem) :
    ∃ result, ofResponse response = .ok result ∧
      List.Forall₂ BulkError.Names (items.filterMap Value.failure?) result.errors ∧
      (Text.lines (result.summary (some limit))).length =
        1 + min limit.toNat (items.countP Value.fails) +
          ((result.errors.take limit.toNat).map BulkError.breaks).sum ∧
      (Text.lines (result.summary (some limit)) =
          heading (min limit.toNat (items.countP Value.fails)) (items.countP Value.fails) ::
            (result.errors.take limit.toNat).map BulkError.describe ↔
        ∀ e ∈ result.errors.take limit.toNat, e.breaks = 0) := by
  obtain ⟨result, read, accounts⟩ := ofResponse_accounts isReply listed each
  have fromItems : ∀ item ∈ items, item.isJson = true :=
    Value.isJson_of_items? (Value.isJson_getD json "items" rfl) listed
  have shows : ∀ e ∈ result.errors.take limit.toNat, Text.breaks e.describe = e.breaks :=
    fun e mem =>
      BulkError.breaks_describe (accounts.showsJson each fromItems e (List.mem_of_mem_take mem))
  have lines : Text.lines (result.summary (some limit)) =
      heading (min limit.toNat (items.countP Value.fails)) (items.countP Value.fails) ::
        ((result.errors.take limit.toNat).map BulkError.describe).flatMap Text.lines := by
    rw [lines_summary, shown_of_nonneg result (by omega), List.length_take, ← accounts.failed,
      accounts.failed_eq]
  have counts : ((result.errors.take limit.toNat).map BulkError.describe).map Text.breaks =
      (result.errors.take limit.toNat).map BulkError.breaks := by
    rw [List.map_map]
    exact List.map_congr_left shows
  refine ⟨result, read, accounts.names, ?_, ?_⟩
  · rw [lines, List.length_cons, Text.length_flatMap_lines, List.length_map, List.length_take,
      ← accounts.failed, accounts.failed_eq, counts]
    omega
  · rw [lines, List.cons_inj_right, Text.flatMap_lines_eq, List.forall_mem_map]
    exact forall₂_congr fun e mem => by rw [shows e mem]

/-- A failure whose reason has a line break in it. -/
def brokenItem : Value :=
  .map [("index", .map [("_id", "1"), ("error", .map [("reason", "failed to parse\nat line 1")])])]

def brokenReply : Entries := [("errors", .bool true), ("items", .list [brokenItem])]

theorem summary_lines_broken :
    ∃ result, ofResponse (.map brokenReply) = .ok result ∧ result.errors.length = 1 ∧
      (Text.lines (result.summary (some 1))).length = 3 := by
  have each : ∀ item ∈ [brokenItem], item.IsItem :=
    List.forall_mem_cons.mpr ⟨.action rfl fun _ => .table rfl nofun, nofun⟩
  have isReply : (Value.map brokenReply).entries? = some brokenReply := rfl
  obtain ⟨result, read, -, count, -⟩ := summary_lines (by decide : (1 : Int) ≤ 1) isReply rfl rfl each
  obtain rfl : _ = result := Except.ok.inj read
  exact ⟨_, read, rfl, count⟩

end BulkResult

end DocumentSearch
