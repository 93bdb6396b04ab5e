import DocumentSearch.Cursor.Basic
import DocumentSearch.Proofs.Outcome

/-!
# Steps of cursors

The steps of scrolls and cursors in the form in which proofs read them: what a step does to a
connection is one of a few things, and which of them is known before the connection is.
-/
namespace DocumentSearch

namespace Scroll

theorem advance_of_reached {limit : Option Int} {count : Nat} (full : reached limit count = true)
    (c : Connection) (id timeout : Value) (pending : List Value) :
    advance c id timeout limit count pending = release c id (.ok none) := by
  cases pending <;> rw [advance, if_pos full]

theorem advance_nil {limit : Option Int} {count : Nat} (more : ¬reached limit count = true)
    (c : Connection) (id timeout : Value) :
    advance c id timeout limit count [] = fetch c id timeout limit count := by
  rw [advance, if_neg more]

theorem advance_cons {limit : Option Int} {count : Nat} (more : ¬reached limit count = true)
    (c : Connection) (id timeout hit : Value) (rest : List Value) :
    advance c id timeout limit count (hit :: rest) =
      (.ok (some hit), reading id timeout limit (count + 1) rest, c) := by
  rw [advance, if_neg more]

/-- The step of a scroll behind a number of hits, which nobody gets. It comes sooner if the scroll
gives fewer. -/
def nextBehind : Nat → Scroll → Connection → Pull × Scroll × Connection
  | 0, s, c => s.next c
  | n + 1, s, c =>
    match s.next c with
    | (.ok (some _), s, c) => nextBehind n s c
    | stopped => stopped

/-- The step behind some hits is a step from where those hits have led. -/
theorem nextBehind_eq_next {P : Scroll → Connection → Prop}
    (step : ∀ {s c hit t d}, P s c → s.next c = (.ok (some hit), t, d) → P t d) (n : Nat)
    {s : Scroll} {c : Connection} (start : P s c) :
    ∃ t d, P t d ∧ nextBehind n s c = t.next d := by
  induction n generalizing s c with
  | zero => exact ⟨s, c, start, rfl⟩
  | succ n ih =>
    unfold nextBehind
    split
    · rename_i given
      exact ih (step start given)
    · exact ⟨s, c, start, rfl⟩

end Scroll

namespace Cursor

/-- What a cursor has done after a step of its scroll. -/
def ofScroll (skip consumed : Nat) : Pull × Scroll × Connection → Pull × Cursor × Connection
  | (.ok (some hit), scroll, c) => (.ok (some hit), further scroll skip consumed, c)
  | (given, _, c) => (given, finished, c)

/-- A cursor takes the hit of its scroll that lies behind the skipped ones. -/
theorem nextFurther_eq (scroll : Scroll) (skip consumed : Nat) (c : Connection) :
    nextFurther scroll skip consumed c =
      ofScroll skip (max skip consumed + 1) (scroll.nextBehind (skip - consumed) c) := by
  fun_induction nextFurther scroll skip consumed c with
  | case1 scroll consumed c e scroll' c' failed =>
    cases skip - consumed <;> simp only [Scroll.nextBehind, failed, ofScroll]
  | case2 scroll consumed c scroll' c' ended =>
    cases skip - consumed <;> simp only [Scroll.nextBehind, ended, ofScroll]
  | case3 scroll consumed c hit scroll' c' given behind =>
    rw [show skip - consumed = 0 by omega, show max skip consumed = consumed by omega]
    simp only [Scroll.nextBehind, given, ofScroll]
  | case4 scroll consumed c hit scroll' c' given skipped ih =>
    rw [ih, show skip - consumed = (skip - (consumed + 1)) + 1 by omega,
      show max skip (consumed + 1) = max skip consumed by omega]
    simp only [Scroll.nextBehind, given]

/-- What a cursor does next in its first batch, under the id of its context. -/
inductive Turn (id : Value) where
  | gives (hit : Value) (consumed : Nat) (rest : List Value)
  | ends
  | fails (e : Misuse)
  | scrolls (named : id.truthy = true) (skip consumed : Nat) (remaining : Value)

def Turn.take {id : Value} (w : Window) (hadHits : Bool) (c : Connection) :
    Turn id → Pull × Cursor × Connection
  | gives hit consumed rest => (.ok (some hit), first id w hadHits consumed rest, c)
  | ends => release c id (.ok none)
  | fails e => release c id (.error (.misuse e))
  | scrolls _ skip consumed remaining =>
    nextFurther (.fresh id c.config.scrollTimeout remaining) skip consumed c

theorem afterFirst_turn (id : Value) (w : Window) (hadHits : Bool) (consumed : Nat) :
    ∃ turn : Turn id, ∀ c, afterFirst id w hadHits consumed c = turn.take w hadHits c := by
  unfold afterFirst
  split
  · exact ⟨.ends, fun _ => rfl⟩
  · rename_i goes
    have named : id.truthy = true := by simp_all
    split
    · exact ⟨.scrolls named _ _ _, fun _ => rfl⟩
    · exact ⟨.fails _, fun _ => rfl⟩

theorem nextFirst_turn (id : Value) (w : Window) (hadHits : Bool) (consumed : Nat)
    (pending : List Value) :
    ∃ turn : Turn id, ∀ c, nextFirst id w hadHits c consumed pending = turn.take w hadHits c := by
  induction pending generalizing consumed with
  | nil => exact afterFirst_turn id w hadHits consumed
  | cons hit rest ih =>
    unfold nextFirst
    split
    · exact afterFirst_turn id w hadHits consumed
    · split
      · exact ⟨.fails _, fun _ => rfl⟩
      · split
        · exact ⟨.gives _ _ _, fun _ => rfl⟩
        · exact ih (consumed + 1)

/-- Reads the first reply and gives the first hit. -/
def opening (w : Window) : Except Error Value × Connection → Pull × Cursor × Connection
  | (.error e, c) => (.error e, finished, c)
  | (.ok reply, c) =>
    match readFirst reply with
    | .error e => (.error (.misuse e), finished, c)
    | .ok (id, hits) =>
      match hits.items with
      | .error e => release c id (.error (.misuse e))
      | .ok pending => nextFirst id w hits.truthy c 0 pending

theorem opening_turn (w : Window) (reply : Value) :
    (∃ e, readFirst reply = .error e ∧
      ∀ c, opening w (.ok reply, c) = (.error (.misuse e), finished, c)) ∨
    ∃ (id hits : Value) (turn : Turn id), readFirst reply = .ok (id, hits) ∧
      ∀ c, opening w (.ok reply, c) = turn.take w hits.truthy c := by
  cases read : readFirst reply with
  | error e => exact .inl ⟨e, rfl, fun c => by simp only [opening, read]⟩
  | ok found =>
    obtain ⟨id, hits⟩ := found
    right
    cases items : hits.items with
    | error e => exact ⟨id, hits, .fails e, rfl, fun c => by simp only [opening, read, items]; rfl⟩
    | ok pending =>
      obtain ⟨turn, taken⟩ := nextFirst_turn id w hits.truthy 0 pending
      exact ⟨id, hits, turn, rfl, fun c => by simp only [opening, read, items, taken]⟩

theorem start_eq {query : Value} {c : Connection} {first : Window × Value}
    (asked : firstQuery query c.config.scrollSize c.config.scrollTimeout = .ok first) :
    Cursor.start query c = opening first.1 (c.select first.2 .null) := by
  rw [Cursor.start, asked]
  dsimp only
  cases c.select first.2 .null with
  | mk result c => cases result <;> rfl

theorem start_cases (query : Value) (c : Connection) :
    (∃ e, firstQuery query c.config.scrollSize c.config.scrollTimeout = .error e ∧
      Cursor.start query c = (.error (.misuse e), finished, c)) ∨
    ∃ first, firstQuery query c.config.scrollSize c.config.scrollTimeout = .ok first ∧
      Cursor.start query c = opening first.1 (c.select first.2 .null) := by
  cases asked : firstQuery query c.config.scrollSize c.config.scrollTimeout with
  | error e =>
    left
    refine ⟨e, rfl, ?_⟩
    rw [Cursor.start, asked]
  | ok first => exact .inr ⟨first, rfl, start_eq asked⟩

theorem firstQuery_eq_ok {query timeout : Value} {scrollSize : Number} {first : Window × Value}
    (h : firstQuery query scrollSize timeout = .ok first) :
    ∃ index body,
      first.2 = .map [("index", index), ("body", .map body), ("scroll", timeout)] := by
  simp only [firstQuery, Outcome.bind_eq_ok] at h
  obtain ⟨entries, -, body, -, window, -, h⟩ := h
  split at h
  · obtain rfl := Outcome.pure_eq_ok.mp h
    exact ⟨_, _, rfl⟩
  · cases h

def Started : Cursor → Prop
  | fresh _ => False
  | _ => True

theorem started_release (c : Connection) (id : Value) (given : Pull) :
    (release c id given).2.1.Started := by
  unfold release
  split
  · split <;> trivial
  · trivial

theorem started_nextFurther (scroll : Scroll) (skip consumed : Nat) (c : Connection) :
    (nextFurther scroll skip consumed c).2.1.Started := by
  rw [nextFurther_eq]
  unfold ofScroll
  split <;> trivial

theorem Turn.started_take {id : Value} (turn : Turn id) (w : Window) (hadHits : Bool)
    (c : Connection) : (turn.take w hadHits c).2.1.Started := by
  cases turn with
  | gives hit consumed rest => trivial
  | ends => exact started_release c id _
  | fails e => exact started_release c id _
  | scrolls named skip consumed remaining => exact started_nextFurther _ _ _ _

theorem started_opening (w : Window) (result : Except Error Value) (c : Connection) :
    (opening w (result, c)).2.1.Started := by
  cases result with
  | error e => trivial
  | ok reply =>
    obtain ⟨e, -, unread⟩ | ⟨id, hits, turn, -, taken⟩ := opening_turn w reply
    · rw [unread]
      trivial
    · rw [taken]
      exact turn.started_take _ _ _

theorem started_start (query : Value) (c : Connection) : (start query c).2.1.Started := by
  obtain ⟨e, -, unasked⟩ | ⟨first, -, asked⟩ := start_cases query c
  · rw [unasked]
    trivial
  · rw [asked]
    exact started_opening _ _ _

theorem started_next (s : Cursor) (c : Connection) : (s.next c).2.1.Started := by
  cases s with
  | fresh query => exact started_start query c
  | first id w hadHits consumed pending =>
    obtain ⟨turn, taken⟩ := nextFirst_turn id w hadHits consumed pending
    rw [next, taken]
    exact turn.started_take _ _ _
  | further scroll skip consumed => exact started_nextFurther scroll skip consumed c
  | finished => trivial

end Cursor

end DocumentSearch
