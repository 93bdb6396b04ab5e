import DocumentSearch.Record.Basic
import DocumentSearch.Proofs.Execution.Late

/-!
# Early errors come before the first call

Whatever is read or written through builders, cursors and records: if the query turns out to be to
blame, or no connection is there, then nothing was sent, not even for a part of what was asked.
-/
namespace DocumentSearch

open Connection Outcome

/-- An operation whose line stays as it was if its result is an early error. -/
def Unsent {α : Type} (line : Line) (result : Except Error α) (after : Line) : Prop :=
  Late result ∨ after = line

/-- A line whose client raises no early errors by itself. -/
def Line.Own (line : Line) : Prop := ∀ c, line = some c → c.Own

theorem Line.Own.some {c : Connection} (h : Line.Own (.some c)) : c.Own := h c rfl

theorem Unsent.map {α β : Type} {line after : Line} {result : Except Error α}
    (h : Unsent line result after) (f : α → β) : Unsent line (result.map f) after :=
  h.imp_left fun late => late.map f

namespace Builder

variable (d : Dialect) (store : Store) (b : Builder) {line : Line} (own : line.Own)

include own

theorem unsent_fetch : Unsent line (b.fetch d store line).1 (b.fetch d store line).2.2 := by
  cases line with
  | none => exact .inr rfl
  | some c =>
    unfold fetch
    dsimp only
    split
    · exact .inr rfl
    · rename_i request _
      have asked := late_run own.some "search" (.map request.toEntries) .null
      refine .inl ?_
      unfold select
      split
      · rename_i failed
        rw [failed] at asked
        exact asked.of_error
      · rename_i reply after _
        have read := Reply.late_process b.expandInnerHits reply b.summary
        split
        · rename_i failed
          rw [failed] at read
          exact read
        · exact .ok _

theorem unsent_results : Unsent line (b.results d store line).1 (b.results d store line).2.2 := by
  unfold results
  split
  · exact .inr rfl
  · exact unsent_fetch d store b own

theorem unsent_read (columns : Value) :
    Unsent line (b.read d store columns line).1 (b.read d store columns line).2.2 := by
  unfold read
  split
  · exact .inr rfl
  · exact unsent_results d store _ own

theorem unsent_readFirst (columns : Value) :
    Unsent line (b.readFirst d store columns line).1 (b.readFirst d store columns line).2.2 := by
  have read := unsent_read d store { b with limit := some (.int 1) } own columns
  unfold readFirst
  split <;> rename_i done <;> rw [done] at read
  · exact .inl (.ok _)
  · exact read.imp_left FailsWith.of_error

theorem unsent_paginate (page perPage : Value) :
    Unsent line (b.paginate d store page perPage line).1
      (b.paginate d store page perPage line).2.2 := by
  unfold paginate
  split
  · exact .inr rfl
  · rename_i turned _
    have read := unsent_read d store turned own .null
    split <;> rename_i done <;> rw [done] at read
    · exact read.imp_left FailsWith.of_error
    · exact .inl (late_pageOf _ _ _ _)

theorem unsent_count : Unsent line (b.count d store line).1 (b.count d store line).2 := by
  unfold count
  split
  · exact .inr rfl
  · have counted := unsent_results d store b.counter own
    split <;> rename_i done <;> rw [done] at counted
    · exact counted.imp_left FailsWith.of_error
    · exact .inl (Late.lift _)

theorem unsent_summaryRead (f : Summary → Value) :
    Unsent line (b.summaryRead d store line f).1 (b.summaryRead d store line f).2.2 := by
  have read := unsent_results d store b own
  unfold summaryRead
  split <;> rename_i done <;> rw [done] at read
  · exact read.imp_left FailsWith.of_error
  · exact .inl (.ok _)

/-- All documents are written out before the first one is sent. -/
theorem unsent_insert (values : Value) :
    Unsent line (b.insert d values line).1 (b.insert d values line).2 := by
  unfold insert
  split
  · exact .inr rfl
  · exact .inr rfl
  · split
    · exact .inr rfl
    · rename_i c
      split
      · exact .inr rfl
      · rename_i query _
        have sent := late_insert own.some (.map query) .null
        split <;> rename_i done <;> rw [done] at sent
        · exact .inl sent.of_error
        · exact .inl (.ok true)

omit b in
theorem unsent_write {α : Type} (method : String) (query : Except Error Entries)
    (outcome : Value → Except Misuse α) :
    Unsent line (write method query outcome line).1 (write method query outcome line).2 := by
  unfold write
  split
  · exact .inr rfl
  · rename_i c
    split
    · exact .inr rfl
    · rename_i query
      have sent := late_run own.some method (.map query) .null
      split <;> rename_i done <;> rw [done] at sent
      · exact .inl sent.of_error
      · exact .inl (Late.lift _)

theorem unsent_delete (id : Value) :
    Unsent line (b.delete d store id line).1 (b.delete d store id line).2 := by
  unfold delete
  split
  · exact unsent_write own _ _ _
  · exact unsent_write own _ _ _

end Builder

theorem Action.unsent_perform (d : Dialect) (w : Workspace) (own : w.line.Own) (target : Ref)
    (action : Action) :
    Unsent w.line (action.perform d w target).1 (action.perform d w target).2.line := by
  have adding : ∀ b, Unsent w.line (adding w b).1 (Action.adding w b).2.line := fun b => by
    cases b <;> exact .inr rfl
  let b := w.store.get target
  cases action with
  | fluent | searchRequest | openCursor | routing | parentId | option => exact .inr rfl
  | clone | cloneWithout | newQuery => exact adding _
  | read columns => exact (b.unsent_read d w.store own columns).map _
  | readFirst columns => exact (b.unsent_readFirst d w.store own columns).map _
  | paginate perPage page => exact (b.unsent_paginate d w.store own page perPage).map _
  | count => exact (b.unsent_count d w.store own).map _
  | aggregationResults | duration | rawReply => exact (b.unsent_summaryRead d w.store own _).map _
  | insert values => exact (b.unsent_insert d own values).map _
  | update values => exact (Builder.unsent_write own _ _ _).map _
  | updateByQuery script params => exact (Builder.unsent_write own _ _ _).map _
  | delete id => exact (b.unsent_delete d w.store own id).map _

theorem DocumentCursor.unsent_next (d : Dialect) (store : Store) (s : DocumentCursor) {line : Line}
    (own : line.Own) : Unsent line (s.next d store line).1 (s.next d store line).2.2 := by
  cases line with
  | none => cases s <;> exact .inr rfl
  | some c =>
    cases s with
    | fresh ref =>
      change Unsent _ (nextOn d store (fresh ref) c).1 (some (nextOn d store (fresh ref) c).2.2)
      unfold nextOn
      dsimp only
      split
      · exact .inr rfl
      · exact .inl (Cursor.late_pull own.some store ref _)
    | running ref cursor => exact .inl (Cursor.late_pull own.some store ref cursor)
    | finished => exact .inr rfl

/-- What is asked of a server, through a builder, a cursor or records. A connection may be given to
records; otherwise there is that of their class. -/
inductive Terminal where
  | act (target : Ref) (action : Action)
  | next (cursor : DocumentCursor)
  | add (cls : RecordClass) (attributes : List (String × Value)) (given : Line)
  | remove (cls : RecordClass) (attributes : List (String × Value)) (given : Line)
  | addAll (records : List Value) (given : Line)

namespace Terminal

/-- Whether it is done or why not, and the line that it went over. -/
def attempt (d : Dialect) (w : Workspace) : Terminal → Except Error Unit × Line
  | act target action =>
    let (result, w) := action.perform d w target
    (result.map fun _ => (), w.line)
  | next cursor =>
    let (result, _, line) := cursor.next d w.store w.line
    (result.map fun _ => (), line)
  | add cls attributes given => discard (Record.add d cls attributes given w.line)
  | remove cls attributes given => discard (Record.remove d w.store cls attributes given w.line)
  | addAll records given => discard (Record.addAll d records given w.line)
where
  discard (outcome : Except Error Bool × Line) : Except Error Unit × Line :=
    (outcome.1.map fun _ => (), outcome.2)

end Terminal

namespace Record

/-- The connection that is given to records, if one is, and that of their class. -/
def lines (given bound : Line) : List Line :=
  match given with
  | some _ => [given, bound]
  | none => [bound]

variable {d : Dialect} {given bound : Line}

theorem bound_mem_lines : bound ∈ lines given bound := by
  cases given <;> simp [lines]

theorem line_of_connection {cls : RecordClass} {c : Connection}
    (h : cls.connection given bound = .ok c) : some c ∈ lines given bound := by
  unfold RecordClass.connection at h
  split at h
  · cases h
    exact List.mem_cons_self
  · split at h
    · cases h
      exact List.mem_cons_self
    · cases h

theorem among_of_unsent {α : Type} {lines : List Line} {line after : Line} {result : Except Error α}
    (h : Unsent line result after) (known : line ∈ lines) : Late result ∨ after ∈ lines := by
  refine h.imp_right fun same => ?_
  rwa [same]

variable (own : ∀ line ∈ lines given bound, Line.Own line)

include own

theorem among_add (cls : RecordClass) (attributes : List (String × Value)) :
    Late (add d cls attributes given bound).1 ∨
      (add d cls attributes given bound).2 ∈ lines given bound := by
  unfold add
  split
  · exact .inr bound_mem_lines
  · rename_i connected
    have known := line_of_connection connected
    split
    · exact .inr known
    · exact among_of_unsent (Builder.unsent_insert d _ (own _ known) _) known

theorem among_remove (store : Store) (cls : RecordClass) (attributes : List (String × Value)) :
    Late (remove d store cls attributes given bound).1 ∨
      (remove d store cls attributes given bound).2 ∈ lines given bound := by
  unfold remove
  split
  · exact .inr bound_mem_lines
  · rename_i connected
    have known := line_of_connection connected
    exact among_of_unsent (Builder.unsent_delete d store _ (own _ known) _) known

theorem among_addAll (records : List Value) :
    Late (addAll d records given bound).1 ∨
      (addAll d records given bound).2 ∈ lines given bound := by
  unfold addAll
  split
  · exact .inr bound_mem_lines
  · split
    · exact .inr bound_mem_lines
    · split
      · split
        · exact .inr bound_mem_lines
        · rename_i connected
          have known := line_of_connection connected
          split
          · exact .inr known
          · exact among_of_unsent (Builder.unsent_insert d _ (own _ known) _) known
      · exact .inr bound_mem_lines

end Record

namespace Terminal

def lines (w : Workspace) : Terminal → List Line
  | act .. | next .. => [w.line]
  | add _ _ given | remove _ _ given | addAll _ given => Record.lines given w.line

variable {d : Dialect} {w : Workspace}

theorem late_or_among (operation : Terminal) (own : ∀ line ∈ operation.lines w, line.Own) :
    Late (operation.attempt d w).1 ∨ (operation.attempt d w).2 ∈ operation.lines w := by
  have discarded : ∀ {outcome : Except Error Bool × Line} {lines : List Line},
      Late outcome.1 ∨ outcome.2 ∈ lines →
        Late (attempt.discard outcome).1 ∨ (attempt.discard outcome).2 ∈ lines :=
    fun h => h.imp_left fun late => late.map _
  cases operation with
  | act target action =>
    have acted := action.unsent_perform d w (own _ List.mem_cons_self) target
    exact Record.among_of_unsent (acted.map _) List.mem_cons_self
  | next cursor =>
    have stepped := cursor.unsent_next d w.store (own _ List.mem_cons_self)
    exact Record.among_of_unsent (stepped.map _) List.mem_cons_self
  | add cls attributes given => exact discarded (Record.among_add own cls attributes)
  | remove cls attributes given => exact discarded (Record.among_remove own w.store cls attributes)
  | addAll records given => exact discarded (Record.among_addAll own records)

/-- If an operation fails because the query is to blame or because there is no connection, then the
line is one of those that there were, with the calls that had been made over it before. -/
theorem early_unsent (operation : Terminal) (own : ∀ line ∈ operation.lines w, line.Own) {e : Error}
    (early : e.Early) (failed : (operation.attempt d w).1 = .error e) :
    (operation.attempt d w).2 ∈ operation.lines w :=
  (operation.late_or_among own).resolve_left fun late => late e failed early

/-- A builder on an index, with a connection to a server that answers everything. -/
def answered : Workspace :=
  ⟨⟨[{ Builder.blank "id" with index := "posts" }]⟩,
    some (.opened .standard fun _ _ => .value (.map []))⟩

/-- The second of two documents has a child without an id, so the first one is not sent either. -/
theorem early_unsent_insert :
    (attempt .standard answered
        (.act ⟨0⟩ (.insert (.list [.map [("id", .int 1)],
          .map [("id", .int 2), ("child_documents", .list [.map []])]])))).1 =
      .error (.invalidQuery (.childWithoutId (.int 2))) ∧
    (attempt .standard answered
        (.act ⟨0⟩ (.insert (.list [.map [("id", .int 1)],
          .map [("id", .int 2), ("child_documents", .list [.map []])]])))).2 = answered.line := by
  have own : ∀ line ∈ [answered.line], Line.Own line := by
    simp only [List.forall_mem_singleton]
    rintro c ⟨⟩ earlier call e raised
    cases raised
  refine ⟨rfl, List.mem_singleton.mp ?_⟩
  exact early_unsent (.act ⟨0⟩ _) own (.inl rfl) rfl

end Terminal

end DocumentSearch
