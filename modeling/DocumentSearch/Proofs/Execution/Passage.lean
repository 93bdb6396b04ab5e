import DocumentSearch.Proofs.Cursor.Step
import DocumentSearch.Proofs.Cursor.Exchange
import DocumentSearch.Proofs.Execution.Edit

/-!
# What holds across all requests

A connection changes only by the requests that are sent over it. So a relation between its states
that holds across each request, and across nothing and one thing after another, holds across
whatever is done with scrolls, cursors and builders.
-/
namespace DocumentSearch

open Outcome

/-- A relation that holds across every request that is allowed, by its method and its parameters, and
has no values bound to it. A scroll may always go on, and a context may always be released. -/
structure Passage (Allowed : String → Value → Prop) (R : Connection → Connection → Prop) :
    Prop where
  refl : ∀ c, R c c
  trans : ∀ {c c' c''}, R c c' → R c' c'' → R c c''
  run : ∀ c {method query}, Allowed method query → R c (c.run method query .null).2
  scroll : ∀ id timeout, Allowed "scroll" (.map [("scroll_id", id), ("scroll", timeout)])
  clearScroll : ∀ c id, R c (c.clearScroll id).2

/-- All requests that can be written for a builder with an index are allowed. -/
structure Dialect.Permits (d : Dialect) (index : Value) (Allowed : String → Value → Prop) :
    Prop where
  search : ∀ {store b request}, b.index = index → d.searchRequest store b = .ok request →
    Allowed "search" (.map request.toEntries)
  first : ∀ {store b request first scrollSize timeout}, b.index = index →
    d.searchRequest store b = .ok request →
    Cursor.firstQuery (.map request.toEntries) scrollSize timeout = .ok first →
    Allowed "search" first.2
  insert : ∀ {b documents request}, b.index = index → d.insertRequest b documents = .ok request →
    Allowed "bulk" (.map request)
  update : ∀ {b values request}, b.index = index → d.updateRequest b values = .ok request →
    Allowed "update" (.map request)
  delete : ∀ {b request}, b.index = index → d.deleteRequest b = .ok request →
    Allowed "delete" (.map request)
  updateByQuery : ∀ {store b script params request}, b.index = index →
    d.updateByQueryRequest store b script params = .ok request →
    Allowed "update_by_query" (.map request)
  deleteByQuery : ∀ {store b request}, b.index = index →
    d.deleteByQueryRequest store b = .ok request → Allowed "delete_by_query" (.map request)

namespace Passage

variable {Allowed : String → Value → Prop} {R : Connection → Connection → Prop} {d : Dialect}
  {store : Store} {b : Builder} {line : Line}

section Scrolls

variable (p : Passage Allowed R)

include p

theorem insert (c : Connection) {query : Value} (allowed : Allowed "bulk" query) :
    R c (c.insert query .null).2 := by
  have ran := p.run c allowed
  unfold Connection.insert
  split
  · rename_i done
    rwa [done] at ran
  · exact ran

theorem scrollRelease (c : Connection) (id : Value) (given : Pull) :
    R c (Scroll.release c id given).2.2 := by
  have cleared := p.clearScroll c id
  unfold Scroll.release
  split <;> rename_i done <;> rwa [done] at cleared

theorem scrollFetch (c : Connection) (id timeout : Value) (limit : Option Int) (count : Nat) :
    R c (Scroll.fetch c id timeout limit count).2.2 := by
  have ran := p.run c (p.scroll id timeout)
  unfold Scroll.fetch
  split
  · rename_i done
    rw [done] at ran
    exact p.trans ran (p.scrollRelease _ _ _)
  · rename_i done
    rw [done] at ran
    split
    · exact p.trans ran (p.scrollRelease _ _ _)
    · exact p.trans ran (p.scrollRelease _ _ _)
    · exact ran

theorem scrollAdvance (c : Connection) (id timeout : Value) (limit : Option Int) (count : Nat)
    (pending : List Value) : R c (Scroll.advance c id timeout limit count pending).2.2 := by
  by_cases full : Scroll.reached limit count = true
  · rw [Scroll.advance_of_reached full]
    exact p.scrollRelease c id _
  · cases pending with
    | nil =>
      rw [Scroll.advance_nil full]
      exact p.scrollFetch c id timeout limit count
    | cons hit rest =>
      rw [Scroll.advance_cons full]
      exact p.refl c

theorem scrollNext (s : Scroll) (c : Connection) : R c (s.next c).2.2 := by
  cases s with
  | fresh id timeout limit =>
    unfold Scroll.next
    dsimp only
    split
    · exact p.scrollAdvance c _ _ _ _ _
    · exact p.scrollRelease c _ _
  | reading id timeout limit count pending => exact p.scrollAdvance c _ _ _ _ _
  | finished => exact p.refl c

theorem scrollClose (s : Scroll) (c : Connection) : R c (s.close c).2.2 := by
  cases s with
  | reading id timeout limit count pending => exact p.clearScroll c id
  | fresh | finished => exact p.refl c

theorem release (c : Connection) (id : Value) (given : Pull) :
    R c (Cursor.release c id given).2.2 := by
  have cleared := p.clearScroll c id
  unfold Cursor.release
  split
  · split <;> rename_i done <;> rwa [done] at cleared
  · exact p.refl c

theorem nextFurther (scroll : Scroll) (skip consumed : Nat) (c : Connection) :
    R c (Cursor.nextFurther scroll skip consumed c).2.2 := by
  have step : ∀ {s d hit t e}, R c d → Scroll.next s d = (.ok (some hit), t, e) → R c e := by
    intro s d hit t e passed given
    have stepped := p.scrollNext s d
    rw [given] at stepped
    exact p.trans passed stepped
  obtain ⟨s, d, passed, same⟩ :=
    Scroll.nextBehind_eq_next (P := fun _ => R c) step (skip - consumed) (p.refl c)
  have stepped := p.trans passed (p.scrollNext s d)
  rw [Cursor.nextFurther_eq, same]
  generalize s.next d = given at stepped
  obtain ⟨e | _ | hit, scroll, c⟩ := given <;> exact stepped

theorem take {id : Value} (turn : Cursor.Turn id) (w : Window) (hadHits : Bool) (c : Connection) :
    R c (turn.take w hadHits c).2.2 := by
  cases turn with
  | gives hit consumed rest => exact p.refl c
  | ends => exact p.release c id _
  | fails e => exact p.release c id _
  | scrolls named skip consumed remaining => exact p.nextFurther _ _ _ c

theorem start (query : Value) (c : Connection)
    (first : ∀ {scrollSize timeout found}, Cursor.firstQuery query scrollSize timeout = .ok found →
      Allowed "search" found.2) : R c (Cursor.start query c).2.2 := by
  obtain ⟨e, -, unasked⟩ | ⟨found, wanted, asked⟩ := Cursor.start_cases query c
  · rw [unasked]
    exact p.refl c
  · have selected : R c (c.select found.2 .null).2 := p.run c (first wanted)
    rw [asked]
    generalize c.select found.2 .null = r at selected
    obtain ⟨e | reply, d⟩ := r
    · exact selected
    · obtain ⟨e, -, unread⟩ | ⟨id, hits, turn, -, taken⟩ := Cursor.opening_turn found.1 reply
      · rw [unread]
        exact selected
      · rw [taken]
        exact p.trans selected (p.take turn _ _ d)

theorem next (s : Cursor) (c : Connection)
    (first : ∀ {query scrollSize timeout found}, s = .fresh query →
      Cursor.firstQuery query scrollSize timeout = .ok found → Allowed "search" found.2) :
    R c (s.next c).2.2 := by
  cases s with
  | fresh query => exact p.start query c (first rfl)
  | first id w hadHits consumed pending =>
    obtain ⟨turn, taken⟩ := Cursor.nextFirst_turn id w hadHits consumed pending
    rw [Cursor.next, taken]
    exact p.take turn w hadHits c
  | further scroll skip consumed => exact p.nextFurther scroll skip consumed c
  | finished => exact p.refl c

theorem close (s : Cursor) (c : Connection) : R c (s.close c).2.2 := by
  cases s with
  | first id w hadHits consumed pending =>
    have released := p.release c id (.ok none)
    unfold Cursor.close
    dsimp only
    split <;> rename_i done <;> rwa [done] at released
  | further scroll skip consumed => exact p.scrollClose scroll c
  | fresh | finished => exact p.refl c

theorem pull (store : Store) (ref : Ref) (s : Cursor) (c : Connection)
    (first : ∀ {query scrollSize timeout found}, s = .fresh query →
      Cursor.firstQuery query scrollSize timeout = .ok found → Allowed "search" found.2) :
    R c (DocumentCursor.pull store ref s c).2.2 := by
  have stepped := p.next s c first
  unfold DocumentCursor.pull
  split
  · rename_i done
    rwa [done] at stepped
  · rename_i done
    rwa [done] at stepped
  · rename_i done
    rw [done] at stepped
    split
    · exact stepped
    · exact p.trans stepped (p.close _ _)

end Scrolls

end Passage

/-- What a cursor over documents asks for first is allowed: it takes its request from its builder,
or it is past that already. -/
def DocumentCursor.Permitted (d : Dialect) (store : Store) (Allowed : String → Value → Prop) :
    DocumentCursor → Prop
  | fresh ref => d.Permits (store.get ref).index Allowed
  | running _ cursor => ∀ {query scrollSize timeout found}, cursor = .fresh query →
      Cursor.firstQuery query scrollSize timeout = .ok found → Allowed "search" found.2
  | finished => True

namespace Passage

variable {Allowed : String → Value → Prop} {R : Connection → Connection → Prop} {d : Dialect}
  {store : Store} {b : Builder} {line : Line} (p : Passage Allowed R)

include p

theorem nextOn (s : DocumentCursor) (c : Connection) (permitted : s.Permitted d store Allowed) :
    R c (s.nextOn d store c).2.2 := by
  cases s with
  | fresh ref =>
    unfold DocumentCursor.nextOn
    dsimp only
    split
    · exact p.refl c
    · rename_i written
      refine p.pull store ref _ c fun same found => ?_
      cases same
      exact permitted.first rfl written found
  | running ref cursor => exact p.pull store ref cursor c permitted
  | finished => exact p.refl c

theorem closeOn (s : DocumentCursor) (c : Connection) : R c (s.closeOn c).2.2 := by
  cases s with
  | running ref cursor => exact p.close cursor c
  | fresh | finished => exact p.refl c

theorem same (line : Line) : Option.Rel R line line := by
  cases line with
  | none => exact .none
  | some c => exact .some (p.refl c)

theorem nextLine (s : DocumentCursor) (line : Line) (permitted : s.Permitted d store Allowed) :
    Option.Rel R line (s.next d store line).2.2 := by
  cases line with
  | none => cases s <;> exact .none
  | some c => exact .some (p.nextOn s c permitted)

theorem closeLine (s : DocumentCursor) (line : Line) : Option.Rel R line (s.close line).2.2 := by
  cases line with
  | none => exact .none
  | some c => exact .some (p.closeOn s c)

theorem insertLine (permits : d.Permits b.index Allowed) (values : Value) (line : Line) :
    Option.Rel R line (b.insert d values line).2 := by
  unfold Builder.insert
  split
  · exact p.same line
  · exact p.same line
  · split
    · exact .none
    · rename_i c
      split
      · exact p.same _
      · rename_i written
        have sent := p.insert c (permits.insert rfl written)
        split <;> rename_i done <;> rw [done] at sent <;> exact .some sent

theorem write {α : Type} {method : String} {query : Except Error Entries}
    (allowed : ∀ request, query = .ok request → Allowed method (.map request))
    (outcome : Value → Except Misuse α) (line : Line) :
    Option.Rel R line (Builder.write method query outcome line).2 := by
  unfold Builder.write
  split
  · exact .none
  · rename_i c
    split
    · exact p.same _
    · rename_i query
      have sent := p.run c (allowed query rfl)
      split <;> rename_i done <;> rw [done] at sent <;> exact .some sent

theorem update (permits : d.Permits b.index Allowed) (values : Value) (line : Line) :
    Option.Rel R line (b.update d values line).2 := by
  refine p.write (fun request written => ?_) _ line
  obtain ⟨values, -, written⟩ := bind_eq_ok.mp written
  exact permits.update rfl written

theorem updateByQuery (store : Store) (permits : d.Permits b.index Allowed)
    (script params : Value) (line : Line) :
    Option.Rel R line (b.updateByQuery d store script params line).2 := by
  refine p.write (fun request written => ?_) _ line
  obtain ⟨params, -, written⟩ := bind_eq_ok.mp written
  exact permits.updateByQuery rfl written

theorem delete (store : Store) (permits : d.Permits b.index Allowed) (id : Value) (line : Line) :
    Option.Rel R line (b.delete d store id line).2 := by
  unfold Builder.delete
  split
  · exact p.write (fun request written => permits.deleteByQuery rfl written) _ line
  · refine p.write (fun request written => ?_) _ line
    obtain ⟨keyed, narrowed, written⟩ := bind_eq_ok.mp written
    exact permits.delete (Builder.index_keyed narrowed) written

theorem fetch (store : Store) (permits : d.Permits b.index Allowed) (line : Line) :
    Option.Rel R line (b.fetch d store line).2.2 := by
  unfold Builder.fetch
  split
  · exact .none
  · rename_i c
    split
    · exact p.same _
    · rename_i request written
      have sent : R c (c.select (.map request.toEntries) .null).2 :=
        p.run c (permits.search rfl written)
      split
      · rename_i done
        rw [done] at sent
        exact .some sent
      · rename_i done
        rw [done] at sent
        split <;> exact .some sent

theorem results (store : Store) (permits : d.Permits b.index Allowed) (line : Line) :
    Option.Rel R line (b.results d store line).2.2 := by
  unfold Builder.results
  split
  · exact p.same line
  · exact p.fetch store permits line

theorem read (store : Store) (permits : d.Permits b.index Allowed) (columns : Value) (line : Line) :
    Option.Rel R line (b.read d store columns line).2.2 := by
  unfold Builder.read
  split
  · exact p.same line
  · rename_i chosen _
    exact p.results store (b := { b with columns := chosen }) permits line

theorem readFirst (store : Store) (permits : d.Permits b.index Allowed) (columns : Value)
    (line : Line) :
    Option.Rel R line (b.readFirst d store columns line).2.2 := by
  have read := p.read store (b := { b with limit := some (.int 1) }) permits columns line
  unfold Builder.readFirst
  split <;> rename_i done <;> rwa [done] at read

theorem paginate (store : Store) (permits : d.Permits b.index Allowed) (page perPage : Value)
    (line : Line) :
    Option.Rel R line (b.paginate d store page perPage line).2.2 := by
  have same := Builder.apart_index.withPage b page perPage
  unfold Builder.paginate
  split
  · exact p.same line
  · rename_i turned done
    rw [done] at same
    have read := p.read store (b := turned) (same ▸ permits) .null line
    split <;> rename_i done <;> rwa [done] at read

theorem count (store : Store) (permits : d.Permits b.index Allowed) (line : Line) :
    Option.Rel R line (b.count d store line).2 := by
  unfold Builder.count
  split
  · exact p.same line
  · have counted := p.results store (b := b.counter) permits line
    split <;> rename_i done <;> rwa [done] at counted

theorem summaryRead (store : Store) (permits : d.Permits b.index Allowed) (line : Line)
    (f : Summary → Value) :
    Option.Rel R line (b.summaryRead d store line f).2.2 := by
  have read := p.results store permits line
  unfold Builder.summaryRead
  split <;> rename_i done <;> rwa [done] at read

/-- It holds across every action on a builder whose requests are allowed. -/
theorem perform (w : Workspace) (ref : Ref) (permits : d.Permits (w.store.get ref).index Allowed)
    (action : Action) : Option.Rel R w.line (action.perform d w ref).2.line := by
  have added : ∀ b, Option.Rel R w.line (Action.adding w b).2.line := fun b => by
    cases b <;> exact p.same w.line
  cases action with
  | fluent | searchRequest | openCursor | routing | parentId | option => exact p.same w.line
  | clone | cloneWithout | newQuery => exact added _
  | read columns => exact p.read w.store permits columns w.line
  | readFirst columns => exact p.readFirst w.store permits columns w.line
  | paginate perPage page => exact p.paginate w.store permits page perPage w.line
  | count => exact p.count w.store permits w.line
  | aggregationResults | duration | rawReply => exact p.summaryRead w.store permits w.line _
  | insert values => exact p.insertLine permits values w.line
  | update values => exact p.update permits values w.line
  | updateByQuery script params => exact p.updateByQuery w.store permits script params w.line
  | delete id => exact p.delete w.store permits id w.line

end Passage

end DocumentSearch
