import DocumentSearch.Proofs.Bulk.Item
import DocumentSearch.Proofs.Cache.Reply
import DocumentSearch.Proofs.Connection.Checked
import DocumentSearch.Proofs.Cursor.Exchange
import DocumentSearch.Proofs.Text.Line

/-!
# The account of a bulk reply

An item of a bulk reply that is not empty tells of an action that was done or failed. A result
counts these items, and names the failures in the order of the items. An insertion fails with the
result of its reply as soon as one item failed.
-/
namespace DocumentSearch

open Outcome

namespace Value

/-- The first action that an item tells of, with its detail; an empty item tells of none. -/
def action? (item : Value) : Option (Value × Entries) :=
  if item.truthy then
    match item.entries? with
    | some ((operation, outcome) :: _) => outcome.entries?.map fun detail => (operation, detail)
    | _ => none
  else none

/-- The first action that an item tells of, if it failed. -/
def failure? (item : Value) : Option (Value × Entries) :=
  item.action?.filter fun action => (under action.2 "error").truthy

def fails (item : Value) : Bool := item.failure?.isSome

/-- A failure is told as a text, or as a table in which the cause, if there is one, is a table. -/
inductive IsFailure (error : Value) : Prop
  | text {reason : String} (h : error = .str reason)
  | table {fields : Entries} (h : error.entries? = some fields)
      (cause : (under fields "caused_by").truthy = true →
        ∃ entries, (under fields "caused_by").entries? = some entries)

/-- An item of a bulk reply: an empty one, or one that tells of an action and of its failure, if it
failed. -/
inductive IsItem (item : Value) : Prop
  | empty (h : item.truthy = false)
  | action {operation : Value} {detail : Entries} (h : item.action? = some (operation, detail))
      (failure : (under detail "error").truthy = true → (under detail "error").IsFailure)

end Value

/-- An error that says which action failed and where. -/
structure BulkError.Names (action : Value × Entries) (e : BulkError) : Prop where
  operation : e.operation = action.1
  docId : e.docId = Value.under action.2 "_id"
  indexName : e.indexName = Value.under action.2 "_index"
  status : e.status = (Table.find? action.2 "status").getD (.int 0)

namespace BulkResult

def Becomes (action : Value × Entries) (e : BulkError) : Prop :=
  failure action.1 action.2 (Value.under action.2 "error") = .ok e

/-- A result that has counted some items and made an error of each failure among them. -/
structure Accounts (r : BulkResult) (items : List Value) : Prop where
  total : r.total = items.countP Value.truthy
  parts : r.total = r.success + r.failed
  failed : r.failed = r.errors.length
  errors : List.Forall₂ Becomes (items.filterMap Value.failure?) r.errors

variable {r : BulkResult} {before items : List Value} {item operation error : Value}
  {detail : Entries} {e : BulkError}

/-- What is told of a failure; a text is its reason. -/
def told (error : Value) : Except Misuse Entries :=
  match error with
  | .str reason => .ok [("type", "unknown"), ("reason", .str reason)]
  | error => error.entries

def causeOf (fields : Entries) : Except Misuse Entries :=
  ((Value.under fields "caused_by").orElse (.map [])).toEntries

def errorOf (operation : Value) (detail fields cause : Entries) : BulkError where
  docId := Value.under detail "_id"
  indexName := Value.under detail "_index"
  operation := operation
  status := (Table.find? detail "status").getD (.int 0)
  errorType := (Table.find? fields "type").getD "unknown"
  reason := (Table.find? fields "reason").getD ""
  causedBy := cause

theorem failure_eq_ok :
    failure operation detail error = .ok e ↔
      ∃ fields cause, told error = .ok fields ∧ causeOf fields = .ok cause ∧
        e = errorOf operation detail fields cause := by
  have steps : failure operation detail error = (told error >>= fun fields =>
      causeOf fields >>= fun cause => .ok (errorOf operation detail fields cause)) := by
    cases error <;> rfl
  simp only [steps, bind_eq_ok, Except.ok.injEq, eq_comm (b := e)]
  constructor
  · rintro ⟨fields, read, cause, caused, made⟩
    exact ⟨fields, cause, read, caused, made⟩
  · rintro ⟨fields, cause, read, caused, made⟩
    exact ⟨fields, read, cause, caused, made⟩

theorem told_of_isFailure (h : error.IsFailure) :
    ∃ fields, told error = .ok fields ∧ ((Value.under fields "caused_by").truthy = true →
      ∃ entries, (Value.under fields "caused_by").entries? = some entries) := by
  cases h with
  | @text reason h =>
    subst h
    exact ⟨_, rfl, nofun⟩
  | @table fields h cause =>
    refine ⟨fields, ?_, cause⟩
    unfold told
    split
    · cases h
    · exact Value.entries_eq h

theorem causeOf_cases {fields : Entries} (table : (Value.under fields "caused_by").truthy = true →
      ∃ entries, (Value.under fields "caused_by").entries? = some entries) :
    causeOf fields = .ok [] ∨
      ∃ cause, (Value.under fields "caused_by").entries? = some cause ∧
        causeOf fields = .ok cause := by
  unfold causeOf
  cases given : (Value.under fields "caused_by").truthy with
  | true =>
    obtain ⟨cause, isTable⟩ := table given
    exact .inr ⟨cause, isTable, Value.toEntries_orElse isTable⟩
  | false =>
    rw [Value.orElse, given]
    exact .inl rfl

theorem exists_failure (operation : Value) (detail : Entries) (h : error.IsFailure) :
    ∃ e, failure operation detail error = .ok e := by
  obtain ⟨fields, read, table⟩ := told_of_isFailure h
  rcases causeOf_cases table with caused | ⟨cause, -, caused⟩
  all_goals exact ⟨_, failure_eq_ok.mpr ⟨fields, _, read, caused, rfl⟩⟩

theorem Becomes.names {action : Value × Entries} (h : Becomes action e) :
    BulkError.Names action e := by
  obtain ⟨fields, cause, -, -, rfl⟩ := failure_eq_ok.mp h
  exact ⟨rfl, rfl, rfl, rfl⟩

theorem action?_eq_some : item.action? = some (operation, detail) ↔
    item.truthy = true ∧ ∃ outcome rest, item.entries? = some ((operation, outcome) :: rest) ∧
      outcome.entries? = some detail := by
  unfold Value.action?
  constructor
  · intro h
    split at h
    · rename_i some
      split at h
      · rename_i operation outcome rest isTable
        obtain ⟨detail, isDetail, same⟩ := Option.map_eq_some_iff.mp h
        cases same
        exact ⟨some, outcome, rest, isTable, isDetail⟩
      · cases h
    · cases h
  · rintro ⟨some, outcome, rest, isTable, isDetail⟩
    rw [if_pos some, isTable]
    exact Option.map_eq_some_iff.mpr ⟨detail, isDetail, rfl⟩

theorem addItem_of_empty (r : BulkResult) (h : item.truthy = false) : r.addItem item = .ok r := by
  rw [addItem, h]
  rfl

theorem addItem_of_action (r : BulkResult) (h : item.action? = some (operation, detail)) :
    r.addItem item =
      if (Value.under detail "error").truthy then do
        let e ← failure operation detail (Value.under detail "error")
        return { r with total := r.total + 1, failed := r.failed + 1, errors := r.errors ++ [e] }
      else .ok { r with total := r.total + 1, success := r.success + 1 } := by
  obtain ⟨some, outcome, rest, isTable, isDetail⟩ := action?_eq_some.mp h
  simp only [addItem, some, Value.entries_eq isTable, Value.entries_eq isDetail, Bool.not_true,
    Bool.false_eq_true, if_false, bind, Except.bind]
  cases (Value.under detail "error").truthy <;> rfl

theorem failure?_of_action? (h : item.action? = some (operation, detail)) :
    item.failure? =
      if (Value.under detail "error").truthy then some (operation, detail) else none := by
  rw [Value.failure?, h, Option.filter_some]

theorem failure?_of_empty (h : item.truthy = false) : item.failure? = none := by
  rw [Value.failure?, Value.action?, if_neg (Bool.eq_false_iff.mp h)]
  rfl

namespace Accounts

theorem start (took : Value) : (empty took).Accounts [] := ⟨rfl, rfl, rfl, .nil⟩

theorem skip (h : r.Accounts before) (empty : item.truthy = false) :
    r.Accounts (before ++ [item]) := by
  refine ⟨?_, h.parts, h.failed, ?_⟩
  · rw [h.total, List.countP_append, List.countP_singleton, empty]
    rfl
  · rw [List.filterMap_append, List.filterMap_cons_none (failure?_of_empty empty)]
    simpa using h.errors

theorem total_succ (h : r.Accounts before) (tells : item.action? = some (operation, detail)) :
    r.total + 1 = (before ++ [item]).countP Value.truthy := by
  rw [h.total, List.countP_append, List.countP_singleton, (action?_eq_some.mp tells).1]
  rfl

theorem succeed (h : r.Accounts before) (tells : item.action? = some (operation, detail))
    (done : (Value.under detail "error").truthy = false) :
    Accounts { r with total := r.total + 1, success := r.success + 1 } (before ++ [item]) := by
  refine ⟨h.total_succ tells, ?_, h.failed, ?_⟩
  · simp only [h.parts, Nat.add_right_comm]
  · have none : item.failure? = none := by
      rw [failure?_of_action? tells, done, if_neg Bool.false_ne_true]
    rw [List.filterMap_append, List.filterMap_cons_none none]
    simpa using h.errors

theorem fail (h : r.Accounts before) (tells : item.action? = some (operation, detail))
    (failed : (Value.under detail "error").truthy = true) (becomes : Becomes (operation, detail) e) :
    Accounts { r with total := r.total + 1, failed := r.failed + 1, errors := r.errors ++ [e] }
      (before ++ [item]) := by
  refine ⟨h.total_succ tells, ?_, ?_, ?_⟩
  · simp only [h.parts, Nat.add_assoc]
  · simp only [h.failed, List.length_append, List.length_singleton]
  · have some : item.failure? = some (operation, detail) := by
      rw [failure?_of_action? tells, failed, if_pos rfl]
    rw [List.filterMap_append, List.filterMap_cons_some some]
    exact List.rel_append h.errors (.cons becomes .nil)

theorem addItem (h : r.Accounts before) (isItem : item.IsItem) :
    ∃ after, r.addItem item = .ok after ∧ after.Accounts (before ++ [item]) := by
  cases isItem with
  | empty none => exact ⟨r, addItem_of_empty r none, h.skip none⟩
  | @action operation detail tells failure =>
    rw [addItem_of_action r tells]
    cases fails : (Value.under detail "error").truthy with
    | false => exact ⟨_, if_neg Bool.false_ne_true, h.succeed tells fails⟩
    | true =>
      obtain ⟨e, becomes⟩ := exists_failure operation detail (failure fails)
      rw [if_pos rfl, becomes]
      exact ⟨_, rfl, h.fail tells fails becomes⟩

theorem addItems (h : r.Accounts before) (each : ∀ item ∈ items, item.IsItem) :
    ∃ after, items.foldlM BulkResult.addItem r = .ok after ∧ after.Accounts (before ++ items) := by
  induction items generalizing r before with
  | nil => exact ⟨r, rfl, by rwa [List.append_nil]⟩
  | cons item items ih =>
    obtain ⟨first, rest⟩ := List.forall_mem_cons.mp each
    obtain ⟨next, one, counted⟩ := h.addItem first
    obtain ⟨after, all, accounts⟩ := ih counted rest
    rw [List.append_assoc, List.singleton_append] at accounts
    exact ⟨after, by rw [List.foldlM_cons, one]; exact all, accounts⟩

theorem failed_eq (h : r.Accounts items) : r.failed = items.countP Value.fails := by
  rw [h.failed, ← h.errors.length_eq, List.length_filterMap_eq_countP]
  rfl

theorem names (h : r.Accounts items) :
    List.Forall₂ BulkError.Names (items.filterMap Value.failure?) r.errors :=
  h.errors.imp fun _ _ becomes => becomes.names

end Accounts

theorem limitOf_ofNumber {n : Number} {limit : Int} (whole : n.whole? = some limit) :
    limitOf (.ofNumber n) = .ok (some limit) := by
  cases n with
  | flag b | int i =>
    cases whole
    rfl
  | real x => cases whole

def heading (shown all : Nat) : String :=
  "Bulk Insert Errors (Showing " ++ toString shown ++ " of " ++ toString all ++ "):"

theorem breaks_heading (shown all : Nat) : Text.breaks (heading shown all) = 0 := by
  unfold heading
  simp only [Text.breaks_append, Text.breaks_nat]
  decide

theorem summary_eq (r : BulkResult) (limit : Option Int) :
    r.summary limit = Value.joined "\n" (heading (r.shown limit).length r.errors.length ::
      (r.shown limit).map BulkError.describe) := by
  unfold summary heading
  rfl

theorem lines_summary (r : BulkResult) (limit : Option Int) :
    Text.lines (r.summary limit) = heading (r.shown limit).length r.errors.length ::
      ((r.shown limit).map BulkError.describe).flatMap Text.lines := by
  rw [summary_eq, Text.lines_joined (List.cons_ne_nil _ _), List.flatMap_cons,
    Text.lines_of_unbroken (breaks_heading _ _), List.singleton_append]

theorem shown_of_nonneg (r : BulkResult) {limit : Int} (h : 0 ≤ limit) :
    r.shown (some limit) = r.errors.take limit.toNat := if_pos h

variable {response : Value} {reply : Entries}

theorem ofResponse_accounts (isReply : response.entries? = some reply)
    (listed : ((Table.find? reply "items").getD (.list [])).items? = some items)
    (each : ∀ item ∈ items, item.IsItem) :
    ∃ result, ofResponse response = .ok result ∧ result.Accounts items := by
  have listed : ((Table.find? reply "items").getD (.list [])).items = .ok items := by
    rw [Value.items, listed]
  obtain ⟨result, all, accounts⟩ :=
    (Accounts.start ((Table.find? reply "took").getD (.int 0))).addItems each
  refine ⟨result, ?_, accounts⟩
  rw [ofResponse, Value.get_eq isReply, Value.get_eq isReply]
  exact bind_eq_ok.mpr ⟨_, rfl, bind_eq_ok.mpr ⟨_, rfl, bind_eq_ok.mpr ⟨_, listed, all⟩⟩⟩

end BulkResult

theorem Number.le_of_not_lt {n : Number} {bound i : Int} (h : n.lt (.int bound) = false)
    (whole : n.whole? = some i) : bound ≤ i := by
  unfold Number.lt at h
  rw [whole] at h
  exact Int.not_lt.mp (of_decide_eq_false h)

namespace Connection

variable {c : Connection} {query bindings response : Value} {reply : Entries}

@[simp] theorem config_run (c : Connection) (method : String) (query bindings : Value) :
    (c.run method query bindings).2.config = c.config := by
  unfold run
  split
  · rfl
  · dsimp only
    split
    · rfl
    · rfl
    · exact config_logged _ _ _

theorem insert_of_run (answered : (c.run "bulk" query bindings).1 = .ok response) :
    (c.insert query bindings).1 = bulkOutcome c.config.bulkErrorLimit response := by
  have config := c.config_run "bulk" query bindings
  unfold insert
  split
  · rename_i other after same
    rw [same] at answered config
    cases answered
    rw [← config]
  · rename_i failed
    exact (failed response _ (Prod.ext answered rfl)).elim

theorem bulkOutcome_eq {limit : Number} (isReply : response.entries? = some reply) :
    bulkOutcome limit response =
      if (Value.under reply "errors").truthy then do
        let result ← BulkResult.ofResponse response
        let _ ← BulkResult.limitOf (.ofNumber limit)
        throw (.bulkInsert result (.ofNumber limit))
      else .ok response := by
  rw [bulkOutcome, Value.get_eq isReply]
  rfl

theorem insert_of_flagged {given : Table String Value} {limit : Int} {result : BulkResult}
    (accepted : Config.of given = .ok c.config)
    (whole : c.config.bulkErrorLimit.whole? = some limit)
    (answered : (c.run "bulk" query bindings).1 = .ok response)
    (isReply : response.entries? = some reply) (flagged : (Value.under reply "errors").truthy = true)
    (read : BulkResult.ofResponse response = .ok result) :
    (c.insert query bindings).1 = .error (.bulkInsert result (.ofNumber c.config.bulkErrorLimit)) ∧
      ∃ text, (Error.bulkInsert result (.ofNumber c.config.bulkErrorLimit)).message = some text ∧
        (Text.lines text).head? =
          some (BulkResult.heading (min limit.toNat result.errors.length) result.errors.length) := by
  have read? : ((Value.ofNumber c.config.bulkErrorLimit).number?.bind Number.whole?) = some limit := by
    rw [Value.number?_ofNumber]
    exact whole
  have positive : 1 ≤ limit :=
    Number.le_of_not_lt (Config.checked_of accepted).bulkErrorLimit whole
  constructor
  · rw [insert_of_run answered, bulkOutcome_eq isReply, if_pos flagged, read,
      BulkResult.limitOf_ofNumber whole]
    rfl
  · refine ⟨_, rfl, ?_⟩
    rw [read?, BulkResult.lines_summary, BulkResult.shown_of_nonneg result (by omega),
      List.length_take]
    rfl

/-- A result of a bulk reply accounts for every item of it, and an insertion fails with that result
if an item failed, as long as the reply says so itself. -/
theorem insert_accounts {items : List Value} (isReply : response.entries? = some reply)
    (listed : ((Table.find? reply "items").getD (.list [])).items? = some items)
    (each : ∀ item ∈ items, item.IsItem) :
    ∃ result, BulkResult.ofResponse response = .ok result ∧
      result.total = items.countP Value.truthy ∧ result.total = result.success + result.failed ∧
      result.failed = result.errors.length ∧ result.failed = items.countP Value.fails ∧
      List.Forall₂ BulkError.Names (items.filterMap Value.failure?) result.errors ∧
      (result.isSuccess = true ↔ result.failed = 0) ∧
      ∀ (c : Connection) (given : Table String Value) (limit : Int) (query bindings : Value),
        Config.of given = .ok c.config → c.config.bulkErrorLimit.whole? = some limit →
        (c.run "bulk" query bindings).1 = .ok response →
        ((Value.under reply "errors").truthy = true ↔ ∃ item ∈ items, item.fails = true) →
          ((c.insert query bindings).1 = .ok response ↔ ¬∃ item ∈ items, item.fails = true) ∧
          ((∃ item ∈ items, item.fails = true) →
            (c.insert query bindings).1 =
              .error (.bulkInsert result (.ofNumber c.config.bulkErrorLimit)) ∧
            ∃ text, (Error.bulkInsert result (.ofNumber c.config.bulkErrorLimit)).message = some text ∧
              (Text.lines text).head? =
                some (BulkResult.heading (min limit.toNat result.failed) result.failed)) := by
  obtain ⟨result, read, accounts⟩ := BulkResult.ofResponse_accounts isReply listed each
  refine ⟨result, read, accounts.total, accounts.parts, accounts.failed, accounts.failed_eq,
    accounts.names, decide_eq_true_iff, ?_⟩
  intro c given limit query bindings accepted whole answered flag
  have raised : (∃ item ∈ items, item.fails = true) → _ := fun some =>
    insert_of_flagged accepted whole answered isReply (flag.mpr some) read
  refine ⟨⟨fun done some => ?_, fun none => ?_⟩, fun some => ?_⟩
  · rw [(raised some).1] at done
    cases done
  · rw [insert_of_run answered, bulkOutcome_eq isReply, if_neg fun flagged => none (flag.mp flagged)]
  · rw [accounts.failed]
    exact raised some

def notFound : Value := .map [("delete", .map [("_id", "3"), ("error", "not found")])]

/-- Of three actions the second and the third failed; one item is empty. -/
def mixedItems : List Value :=
  [.map [("index", .map [("_id", "1"), ("status", .int 201)])],
    .map [],
    .map [("index", .map [("_id", "2"), ("status", .int 400), ("error",
      .map [("reason", "failed"), ("caused_by", .map [("reason", "bad date")])])])],
    notFound]

def mixedReply : Entries := [("errors", .bool true), ("items", .list mixedItems)]

theorem insert_accounts_mixed :
    ∃ result, BulkResult.ofResponse (.map mixedReply) = .ok result ∧ result.total = 3 ∧
      result.success = 1 ∧ result.failed = 2 ∧
      ((opened .standard fun _ _ => .value (.map mixedReply)).insert (.map []) .null).1 =
        .error (.bulkInsert result (.int 10)) := by
  have each : ∀ item ∈ mixedItems, item.IsItem :=
    List.forall_mem_cons.mpr ⟨.action rfl nofun, List.forall_mem_cons.mpr ⟨.empty rfl,
      List.forall_mem_cons.mpr ⟨.action rfl fun _ => .table rfl fun _ => ⟨_, rfl⟩,
        List.forall_mem_cons.mpr ⟨.action rfl fun _ => .text rfl, nofun⟩⟩⟩⟩
  have failing : ∃ item ∈ mixedItems, item.fails = true :=
    ⟨notFound, by simp [mixedItems], rfl⟩
  have isReply : (Value.map mixedReply).entries? = some mixedReply := rfl
  obtain ⟨result, read, total, parts, -, failed, -, -, inserts⟩ :=
    insert_accounts isReply rfl each
  have total : result.total = 3 := total
  have failed : result.failed = 2 := failed
  refine ⟨result, read, total, by omega, failed, ?_⟩
  exact ((inserts (opened .standard fun _ _ => .value (.map mixedReply)) [] 10 (.map []) .null
    rfl rfl rfl ⟨fun _ => failing, fun _ => rfl⟩).2 failing).1

end Connection

end DocumentSearch
