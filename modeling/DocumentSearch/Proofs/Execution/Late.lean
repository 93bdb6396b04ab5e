import DocumentSearch.Proofs.Cache.Served

/-!
# Late errors

What fails once a request was sent fails for the reply, for the server, or for the client. It never
blames the query, and it never misses a connection.
-/
namespace DocumentSearch

open Outcome

/-- An error that can be told before anything is sent: the query is to blame, or there is no
connection. -/
def Error.Early (e : Error) : Prop :=
  e.blamesQuery = true ∨ e = .unbound ∨ ∃ className, e = .noSearchConnection className

/-- A result that is no early error. -/
abbrev Late {α : Type} (x : Except Error α) : Prop := FailsWith (fun e => ¬e.Early) x

namespace Late

variable {α : Type}

theorem misuse (m : Misuse) : Late (.error (.misuse m) : Except Error α) :=
  .error (by simp [Error.Early, Error.blamesQuery])

theorem lift (x : Except Misuse α) : Late (Misuse.lift x) := by
  cases x with
  | ok a => exact .ok a
  | error m => exact misuse m

end Late

theorem Value.late_reply (v : Value) : Late v.reply := by
  unfold reply
  split
  · exact .ok _
  · exact .ok _
  · exact .ok _
  · exact .ok _
  · exact .ok _
  · exact Late.misuse _
  · exact .error (by simp [Error.Early, Error.blamesQuery])

theorem Reply.late_process (expand : Bool) (response : Value) (earlier : Summary) :
    Late (process expand response earlier).1 := by
  have replied := response.late_reply
  unfold process
  split
  · rename_i failed
    rw [failed] at replied
    exact replied.of_error
  · split
    · exact Late.lift _
    · exact Late.misuse _

namespace Connection

/-- What the client raises by itself is never an early error: those are raised by queries alone. -/
def Own (c : Connection) : Prop :=
  ∀ earlier call e, c.client.server earlier call = .broken e → ¬e.Early

theorem Own.of_sameServer {c c' : Connection} (own : c.Own) (same : SameServer c c') : c'.Own := by
  intro earlier call e raised
  rw [same] at raised
  exact own earlier call e raised

variable {c : Connection} (own : c.Own)

include own

theorem late_run (method : String) (query bindings : Value) :
    Late (c.run method query bindings).1 := by
  cases named : parametersOf query with
  | error m =>
    simp only [run, named]
    exact .misuse m
  | ok parameters =>
    rw [run_of_parameters c method bindings named]
    change Late (outcome query bindings (c.answer ⟨method, parameters⟩))
    cases answered : c.answer ⟨method, parameters⟩ with
    | value v => exact v.late_reply
    | refused e => exact .error (by simp [Error.Early, Error.blamesQuery])
    | broken e => exact .error (own _ _ e answered)

theorem late_clearScroll (id : Value) : Late (c.clearScroll id).1 := by
  rw [clearScroll_eq]
  dsimp only
  cases answered : c.answer (.release id) with
  | value v => exact .ok ()
  | refused e => exact .ok ()
  | broken e => exact .error (own _ _ e answered)

omit own in
theorem late_bulkOutcome (limit : Number) (response : Value) :
    Late (bulkOutcome limit response) := by
  refine .bind (Late.lift _) fun failed => ?_
  split
  · refine .bind (Late.lift _) fun result => .bind (Late.lift _) fun _ => .error ?_
    simp [Error.Early, Error.blamesQuery]
  · exact .ok response

theorem late_insert (query bindings : Value) : Late (c.insert query bindings).1 := by
  have ran := late_run own "bulk" query bindings
  unfold insert
  split
  · exact late_bulkOutcome _ _
  · exact ran

end Connection

open Connection

namespace Scroll

variable {c : Connection} (own : c.Own)

include own

theorem late_release (id : Value) {given : Pull} (late : Late given) :
    Late (release c id given).1 := by
  have cleared := late_clearScroll own id
  unfold release
  split
  · exact late
  · rename_i failed
    rw [failed] at cleared
    exact cleared.of_error

theorem late_fetch (id timeout : Value) (limit : Option Int) (count : Nat) :
    Late (fetch c id timeout limit count).1 := by
  have asked := late_run own "scroll" (.map [("scroll_id", id), ("scroll", timeout)]) .null
  have kept := c.server_run (.map [("scroll_id", id), ("scroll", timeout)]) .null "scroll"
  unfold fetch
  split
  · rename_i failed
    rw [failed] at asked kept
    exact late_release (own.of_sameServer kept) id asked.of_error
  · rename_i done
    rw [done] at kept
    split
    · exact late_release (own.of_sameServer kept) _ (Late.misuse _)
    · exact late_release (own.of_sameServer kept) _ (.ok _)
    · exact .ok _

theorem late_advance (id timeout : Value) (limit : Option Int) (count : Nat)
    (pending : List Value) : Late (advance c id timeout limit count pending).1 := by
  by_cases full : reached limit count = true
  · rw [advance_of_reached full]
    exact late_release own id (.ok _)
  · cases pending with
    | nil =>
      rw [advance_nil full]
      exact late_fetch own id timeout limit count
    | cons hit rest =>
      rw [advance_cons full]
      exact .ok _

theorem late_next (s : Scroll) : Late (s.next c).1 := by
  cases s with
  | fresh id timeout limit =>
    unfold Scroll.next
    dsimp only
    split
    · exact late_advance own _ _ _ _ _
    · exact late_release own _ (Late.misuse _)
  | reading id timeout limit count pending => exact late_advance own id timeout limit count pending
  | finished => exact .ok none

end Scroll

namespace Cursor

variable {c : Connection} (own : c.Own)

include own

theorem late_release (id : Value) {given : Pull} (late : Late given) :
    Late (release c id given).1 := by
  have cleared := late_clearScroll own id
  unfold release
  split
  · split
    · exact late
    · rename_i failed
      rw [failed] at cleared
      exact cleared.of_error
  · exact late

theorem late_nextFurther (scroll : Scroll) (skip consumed : Nat) :
    Late (nextFurther scroll skip consumed c).1 := by
  have step : ∀ {s d hit t e}, Connection.Own d → Scroll.next s d = (.ok (some hit), t, e) →
      Connection.Own e := by
    intro s d hit t e own given
    have kept := passage_sameServer.scrollNext s d
    rw [given] at kept
    exact own.of_sameServer kept
  obtain ⟨s, d, own, same⟩ :=
    Scroll.nextBehind_eq_next (P := fun _ => Connection.Own) step (skip - consumed) own
  have pulled := Scroll.late_next own s
  rw [nextFurther_eq, same]
  generalize s.next d = given at pulled
  obtain ⟨e | _ | hit, scroll, c⟩ := given <;> exact pulled

theorem Turn.late_take {id : Value} (turn : Turn id) (w : Window) (hadHits : Bool) :
    Late (turn.take w hadHits c).1 := by
  cases turn with
  | gives hit consumed rest => exact .ok _
  | ends => exact late_release own id (.ok none)
  | fails e => exact late_release own id (Late.misuse e)
  | scrolls named skip consumed remaining => exact late_nextFurther own _ _ _

theorem late_start (query : Value) : Late (start query c).1 := by
  obtain ⟨e, -, unasked⟩ | ⟨first, -, asked⟩ := start_cases query c
  · rw [unasked]
    exact Late.misuse e
  · have sought := late_run own "search" first.2 .null
    have kept := c.server_run first.2 .null "search"
    rw [asked, select]
    generalize c.run "search" first.2 .null = r at sought kept
    obtain ⟨e | reply, d⟩ := r
    · exact sought.of_error
    · obtain ⟨e, -, unread⟩ | ⟨id, hits, turn, -, taken⟩ := opening_turn first.1 reply
      · rw [unread]
        exact Late.misuse e
      · rw [taken]
        exact turn.late_take (own.of_sameServer kept) _ _

theorem late_next (s : Cursor) : Late (s.next c).1 := by
  cases s with
  | fresh query => exact late_start own query
  | first id w hadHits consumed pending =>
    obtain ⟨turn, taken⟩ := nextFirst_turn id w hadHits consumed pending
    rw [next, taken]
    exact turn.late_take own w hadHits
  | further scroll skip consumed => exact late_nextFurther own scroll skip consumed
  | finished => exact .ok none

theorem late_pull (store : Store) (ref : Ref) (s : Cursor) :
    Late (DocumentCursor.pull store ref s c).1 := by
  have pulled := late_next own s
  unfold DocumentCursor.pull
  split
  · rename_i failed
    rw [failed] at pulled
    exact pulled
  · exact .ok none
  · split
    · exact .ok _
    · exact Late.misuse _

end Cursor

namespace Page

theorem late_lastPageOf (total : Value) (perPage : Number) : Late (lastPageOf total perPage) := by
  unfold lastPageOf
  split
  · exact .bind (Late.lift _) fun _ => .bind (Late.lift _) fun _ =>
      .bind (Late.lift _) fun _ => .ok _
  · exact .ok 1

theorem late_of (items total page perPage aggregations took : Value) :
    Late (Page.of items total page perPage aggregations took) :=
  .bind (Late.lift _) fun _ => .bind (late_lastPageOf _ _) fun _ =>
    .bind (Late.lift _) fun _ => .ok _

end Page

theorem Builder.late_pageOf (b : Builder) (documents : List Value) (page perPage : Value) :
    Late (b.pageOf documents page perPage) :=
  .bind (Late.lift _) fun _ => .bind (Late.lift _) fun _ => Page.late_of _ _ _ _ _ _

end DocumentSearch
