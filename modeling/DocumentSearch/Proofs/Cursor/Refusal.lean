import DocumentSearch.Proofs.Cursor.Exchange
import DocumentSearch.Proofs.Cursor.Step

/-!
# Refused releases

A cursor goes on in the same way whether a release is refused or done, so a refusal never takes the
place of a hit, of the end or of an error.
-/
namespace DocumentSearch

/-- A server that accepts every release that another one refuses. -/
def Server.forgiving (server : Server) : Server := fun before call =>
  match server before call with
  | .refused e => if call.method = "clear_scroll" then .value .null else .refused e
  | answer => answer

namespace Connection

def forgiving (c : Connection) : Connection :=
  { c with client := { c.client with server := c.client.server.forgiving } }

/-- A result that a connection comes out of, which now forgives. -/
def forgive {α β : Type} (r : α × β × Connection) : α × β × Connection :=
  (r.1, r.2.1, r.2.2.forgiving)

@[simp] theorem server_forgiving (c : Connection) :
    c.forgiving.client.server = c.client.server.forgiving := rfl

theorem timedClient_forgiving (c : Connection) :
    c.forgiving.timedClient = { c.timedClient with server := c.client.server.forgiving } := by
  have same : c.forgiving.config.timeout? = c.config.timeout? := rfl
  unfold timedClient
  rw [same]
  split <;> rfl

theorem sent_forgiving (c : Connection) (call : Call) :
    c.forgiving.sent call = (c.sent call).forgiving := by
  unfold sent
  rw [timedClient_forgiving]
  simp [forgiving, Client.send, Client.note]

theorem answer_forgiving (c : Connection) (call : Call) :
    c.forgiving.answer call =
      match c.answer call with
      | .refused e => if call.method = "clear_scroll" then .value .null else .refused e
      | answer => answer := by
  simp only [answer, timedClient_forgiving, server_forgiving]
  rfl

theorem ran_forgiving (c : Connection) (call : Call) (other : call.method ≠ "clear_scroll")
    (query bindings : Value) :
    c.forgiving.ran call query bindings = (c.ran call query bindings).forgiving := by
  have logged : ∀ c : Connection,
      c.forgiving.logged query bindings = (c.logged query bindings).forgiving := by
    intro c
    have same : c.forgiving.logging = c.logging := rfl
    unfold Connection.logged
    rw [same]
    split <;> rfl
  unfold ran
  rw [answer_forgiving, sent_forgiving]
  cases c.answer call <;> simp [other, logged]

theorem run_forgiving (c : Connection) {method : String} (other : method ≠ "clear_scroll")
    (query bindings : Value) :
    c.forgiving.run method query bindings =
      ((c.run method query bindings).1, (c.run method query bindings).2.forgiving) := by
  cases named : parametersOf query with
  | error e =>
    simp only [run, named, timedClient_forgiving]
    simp only [forgiving, server_timedClient]
  | ok parameters =>
    rw [run_of_parameters _ _ _ named, run_of_parameters _ _ _ named, answer_forgiving,
      ran_forgiving c ⟨method, parameters⟩ other]
    cases c.answer ⟨method, parameters⟩ <;> simp [other]

theorem clearScroll_forgiving (c : Connection) (id : Value) :
    c.forgiving.clearScroll id = ((c.clearScroll id).1, (c.clearScroll id).2.forgiving) := by
  rw [clearScroll_eq, clearScroll_eq, sent_forgiving, answer_forgiving]
  cases c.answer (.release id) <;> simp

end Connection

open Connection

namespace Scroll

theorem release_forgiving (c : Connection) (id : Value) (given : Pull) :
    release c.forgiving id given = forgive (release c id given) := by
  simp only [release, clearScroll_forgiving, forgive]
  cases c.clearScroll id with
  | mk result c => cases result <;> rfl

theorem fetch_forgiving (c : Connection) (id timeout : Value) (limit : Option Int) (count : Nat) :
    fetch c.forgiving id timeout limit count = forgive (fetch c id timeout limit count) := by
  unfold fetch
  rw [run_forgiving c (by simp)]
  cases c.run "scroll" (.map [("scroll_id", id), ("scroll", timeout)]) .null with
  | mk result c =>
    cases result with
    | error e => exact release_forgiving c id _
    | ok reply =>
      dsimp only
      split
      · exact release_forgiving c _ _
      · exact release_forgiving c _ _
      · rfl

theorem advance_forgiving (c : Connection) (id timeout : Value) (limit : Option Int) (count : Nat)
    (pending : List Value) :
    advance c.forgiving id timeout limit count pending =
      forgive (advance c id timeout limit count pending) := by
  by_cases full : reached limit count = true
  · simp only [advance_of_reached full, release_forgiving]
  · cases pending with
    | nil => simp only [advance_nil full, fetch_forgiving]
    | cons hit rest =>
      simp only [advance_cons full]
      rfl

theorem next_forgiving (s : Scroll) (c : Connection) :
    s.next c.forgiving = forgive (s.next c) := by
  cases s with
  | fresh id timeout limit =>
    unfold next
    dsimp only
    split
    · exact advance_forgiving c id _ _ _ _
    · exact release_forgiving c id _
  | reading id timeout limit count pending => exact advance_forgiving c id _ _ _ _
  | finished => rfl

theorem nextBehind_forgiving (n : Nat) (s : Scroll) (c : Connection) :
    s.nextBehind n c.forgiving = forgive (s.nextBehind n c) := by
  induction n generalizing s c with
  | zero => exact next_forgiving s c
  | succ n ih =>
    simp only [nextBehind, next_forgiving]
    obtain ⟨given | _ | hit, s, c⟩ := s.next c
    · rfl
    · rfl
    · exact ih s c

theorem close_forgiving (s : Scroll) (c : Connection) :
    s.close c.forgiving = forgive (s.close c) := by
  cases s with
  | reading id timeout limit count pending =>
    unfold close
    dsimp only
    rw [clearScroll_forgiving]
    rfl
  | fresh id timeout limit => rfl
  | finished => rfl

end Scroll

namespace Cursor

theorem release_forgiving (c : Connection) (id : Value) (given : Pull) :
    release c.forgiving id given = forgive (release c id given) := by
  unfold release
  rw [clearScroll_forgiving]
  split
  · cases c.clearScroll id with
    | mk result c => cases result <;> rfl
  · rfl

theorem nextFurther_forgiving (scroll : Scroll) (skip consumed : Nat) (c : Connection) :
    nextFurther scroll skip consumed c.forgiving = forgive (nextFurther scroll skip consumed c) := by
  simp only [nextFurther_eq, Scroll.nextBehind_forgiving]
  obtain ⟨given | _ | hit, scroll, c⟩ := scroll.nextBehind (skip - consumed) c <;> rfl

theorem Turn.take_forgiving {id : Value} (turn : Turn id) (w : Window) (hadHits : Bool)
    (c : Connection) : turn.take w hadHits c.forgiving = forgive (turn.take w hadHits c) := by
  cases turn with
  | gives hit consumed rest => rfl
  | ends => exact release_forgiving c id _
  | fails e => exact release_forgiving c id _
  | scrolls named skip consumed remaining => exact nextFurther_forgiving _ _ _ c

theorem opening_forgiving (w : Window) (r : Except Error Value) (c : Connection) :
    opening w (r, c.forgiving) = forgive (opening w (r, c)) := by
  cases r with
  | error e => rfl
  | ok reply =>
    obtain ⟨e, -, unread⟩ | ⟨id, hits, turn, -, taken⟩ := opening_turn w reply
    · rw [unread, unread]
      rfl
    · rw [taken, taken, turn.take_forgiving]

theorem start_forgiving (query : Value) (c : Connection) :
    Cursor.start query c.forgiving = forgive (Cursor.start query c) := by
  cases asked : firstQuery query c.config.scrollSize c.config.scrollTimeout with
  | error e =>
    have asked' : firstQuery query c.forgiving.config.scrollSize c.forgiving.config.scrollTimeout =
      .error e := asked
    rw [Cursor.start, Cursor.start, asked, asked']
    rfl
  | ok first =>
    have same := run_forgiving c (by simp : "search" ≠ "clear_scroll") first.2 .null
    rw [start_eq asked, start_eq (c := c.forgiving) asked, select, select, same]
    exact opening_forgiving _ _ _

theorem next_forgiving (s : Cursor) (c : Connection) :
    s.next c.forgiving = forgive (s.next c) := by
  cases s with
  | fresh query => exact start_forgiving query c
  | first id w hadHits consumed pending =>
    obtain ⟨turn, taken⟩ := nextFirst_turn id w hadHits consumed pending
    rw [next, next, taken, taken, turn.take_forgiving]
  | further scroll skip consumed => exact nextFurther_forgiving scroll skip consumed c
  | finished => rfl

theorem close_forgiving (s : Cursor) (c : Connection) :
    s.close c.forgiving = forgive (s.close c) := by
  cases s with
  | fresh query => rfl
  | first id w hadHits consumed pending =>
    unfold close
    dsimp only
    rw [release_forgiving]
    cases release c id (.ok none) with
    | mk given rest => cases given <;> rfl
  | further scroll skip consumed =>
    unfold close
    dsimp only
    rw [Scroll.close_forgiving]
    rfl
  | finished => rfl

end Cursor

end DocumentSearch
