import DocumentSearch.Proofs.Cursor.Refusal
import DocumentSearch.Proofs.Outcome

/-!
# Releasing scroll contexts

Whatever a server does and wherever a cursor is left, the context that the first search opened is
released exactly once and last, and every request names the context as the latest reply does. A
first reply counts if its hits can be looked up; it may have none.
-/
namespace DocumentSearch

open Connection

namespace Answer

def reply? : Answer → Option Value
  | value v => v.reply.toOption
  | _ => none

/-- The id of a context in a reply. -/
def contextId (answer : Answer) : Option Value :=
  answer.reply?.bind fun reply =>
    match reply.get "_scroll_id" .null with
    | .ok id => if id.truthy then some id else none
    | .error _ => none

/-- Whether the hits of a reply can be looked up; a reply may still lack them. -/
def hasBatch (answer : Answer) : Bool := answer.reply?.any (·.batch.toOption.isSome)

/-- Whether a search is known to have opened a context. -/
def opens (answer : Answer) : Bool := answer.contextId.isSome && answer.hasBatch

variable {v reply : Value}

theorem contextId_value (read : v.reply = .ok reply) :
    (value v).contextId =
      match reply.get "_scroll_id" .null with
      | .ok id => if id.truthy then some id else none
      | .error _ => none := by
  simp [contextId, reply?, read, Except.toOption]

theorem hasBatch_value (read : v.reply = .ok reply) :
    (value v).hasBatch = reply.batch.toOption.isSome := by
  simp [hasBatch, reply?, read, Except.toOption]

theorem contextId_of_unread {e : Error} (unread : v.reply = .error e) :
    (value v).contextId = none := by
  simp [contextId, reply?, unread, Except.toOption]

theorem contextId_of_readFirst {id hits : Value} (read : v.reply = .ok reply)
    (found : Cursor.readFirst reply = .ok (id, hits)) :
    (value v).contextId = (if id.truthy then some id else none) ∧ (value v).hasBatch = true := by
  simp only [Cursor.readFirst, Outcome.bind_eq_ok, Outcome.pure_eq_ok, Prod.mk.injEq] at found
  obtain ⟨id, named, batch, given, rfl, rfl⟩ := found
  rw [contextId_value read, hasBatch_value read, named, given]
  exact ⟨rfl, rfl⟩

theorem opens_of_readFirst_error {e : Misuse} (read : v.reply = .ok reply)
    (unread : Cursor.readFirst reply = .error e) : (value v).opens = false := by
  rw [opens, contextId_value read, hasBatch_value read]
  cases named : reply.get "_scroll_id" .null with
  | error e => rfl
  | ok id =>
    cases given : reply.batch with
    | error e => simp [Except.toOption]
    | ok batch =>
      rw [Cursor.readFirst, named, given] at unread
      cases unread

end Answer

namespace Exchange

def latestId (exchanges : List Exchange) : Option Value :=
  exchanges.foldl (fun id x => x.2.contextId.or id) none

def firstAnswer (exchanges : List Exchange) : Option Answer :=
  (exchanges.find? (·.1.method = "search")).map Prod.snd

def opened (exchanges : List Exchange) : Bool := (firstAnswer exchanges).any Answer.opens

/-- Every request for more hits and every release names the context by its latest id. -/
def NamesLatest (exchanges : List Exchange) : Prop :=
  ∀ k x, exchanges[k]? = some x → x.1.method = "scroll" ∨ x.1.method = "clear_scroll" →
    ∃ id, latestId (exchanges.take k) = some id ∧ x.1.arguments.find? "scroll_id" = some id

def Unreleased (exchanges : List Exchange) : Prop :=
  ∀ x ∈ exchanges, x.1.method ≠ "clear_scroll"

/-- The context was released once, with the last request. -/
def ReleasedLast (exchanges : List Exchange) : Prop :=
  ∃ earlier x, exchanges = earlier ++ [x] ∧ x.1.method = "clear_scroll" ∧ Unreleased earlier

theorem latestId_append (exchanges : List Exchange) (x : Exchange) :
    latestId (exchanges ++ [x]) = x.2.contextId.or (latestId exchanges) := by
  simp [latestId]

theorem NamesLatest.append {exchanges : List Exchange} (h : NamesLatest exchanges) {x : Exchange}
    (named : x.1.method = "scroll" ∨ x.1.method = "clear_scroll" →
      ∃ id, latestId exchanges = some id ∧ x.1.arguments.find? "scroll_id" = some id) :
    NamesLatest (exchanges ++ [x]) := by
  intro k y hy naming
  by_cases hk : k < exchanges.length
  · rw [List.getElem?_append_left hk] at hy
    rw [List.take_append_of_le_length (by omega)]
    exact h k y hy naming
  · have last : k = exchanges.length := by
      have := (List.getElem?_eq_some_iff.mp hy).1
      simp at this
      omega
    subst last
    simp only [List.getElem?_concat_length, Option.some.injEq] at hy
    subst hy
    simpa using named naming

theorem opened_append {exchanges : List Exchange} (h : opened exchanges = true) (x : Exchange) :
    opened (exchanges ++ [x]) = true := by
  unfold opened firstAnswer at h ⊢
  rw [List.find?_append]
  cases found : exchanges.find? (·.1.method = "search") with
  | none => simp [found] at h
  | some y => simpa [found] using h

/-- The context is open under an id. -/
structure Open (exchanges : List Exchange) (id : Value) : Prop where
  opened : opened exchanges = true
  latest : latestId exchanges = some id
  named : NamesLatest exchanges
  unreleased : Unreleased exchanges

/-- There is no context, or it is released. -/
structure Settled (exchanges : List Exchange) : Prop where
  named : NamesLatest exchanges
  released : Exchange.opened exchanges = true → ReleasedLast exchanges
  unopened : Exchange.opened exchanges = false → Unreleased exchanges

theorem Settled.nil : Settled [] := by
  refine ⟨?_, ?_, ?_⟩
  · intro k x hx
    simp at hx
  · intro h
    simp [Exchange.opened, firstAnswer] at h
  · intro _ x hx
    simp at hx

theorem Open.release {exchanges : List Exchange} {id : Value} (h : Open exchanges id)
    (answer : Answer) :
    Settled (exchanges ++ [(.release id, answer)]) := by
  have still := opened_append h.opened (.release id, answer)
  refine ⟨h.named.append fun _ => ⟨id, h.latest, rfl⟩, fun _ => ?_, fun unopened => ?_⟩
  · exact ⟨exchanges, _, rfl, rfl, h.unreleased⟩
  · rw [still] at unopened
    cases unopened

theorem Open.scroll {exchanges : List Exchange} {id : Value} (h : Open exchanges id)
    (timeout : Value) (answer : Answer) :
    Open (exchanges ++ [(.scroll id timeout, answer)])
      (answer.contextId.getD id) := by
  refine ⟨opened_append h.opened _, ?_, h.named.append fun _ => ⟨id, h.latest, rfl⟩, ?_⟩
  · rw [latestId_append, h.latest]
    cases answer.contextId <;> rfl
  · intro x hx
    rcases List.mem_append.mp hx with earlier | last
    · exact h.unreleased x earlier
    · obtain rfl := List.mem_singleton.mp last
      simp

theorem namesLatest_search (parameters : Entries) (answer : Answer) :
    NamesLatest [(⟨"search", parameters⟩, answer)] := by
  intro k x hx naming
  have found : x = (⟨"search", parameters⟩, answer) := by
    simpa using List.mem_of_getElem? hx
  subst found
  simp at naming

theorem Settled.search {answer : Answer} (closed : answer.opens = false) (parameters : Entries) :
    Settled [(⟨"search", parameters⟩, answer)] := by
  refine ⟨namesLatest_search parameters answer, fun opened => ?_, fun _ x hx => ?_⟩
  · simp [Exchange.opened, firstAnswer, closed] at opened
  · obtain rfl := List.mem_singleton.mp hx
    simp

theorem Open.search {answer : Answer} {id : Value} (opens : answer.opens = true)
    (named : answer.contextId = some id) (parameters : Entries) :
    Open [(⟨"search", parameters⟩, answer)] id := by
  refine ⟨?_, ?_, namesLatest_search parameters answer, fun x hx => ?_⟩
  · simp [Exchange.opened, firstAnswer, opens]
  · simp [latestId, named]
  · obtain rfl := List.mem_singleton.mp hx
    simp

end Exchange

open Exchange

variable {start c : Connection} {exchanges : List Exchange} {id : Value}

theorem settled_clearScroll (follows : Follows start c exchanges) (context : Open exchanges id) :
    ∃ more, Follows start (c.clearScroll id).2 more ∧ Settled more := by
  rw [clearScroll_eq]
  exact ⟨_, follows.sent _ (by simp), context.release _⟩

namespace Scroll

/-- After a step a scroll has given a hit and its context is open, or else nothing is. -/
def After (start : Connection) (r : Pull × Scroll × Connection) : Prop :=
  ∃ exchanges, Follows start r.2.2 exchanges ∧
    match r.1 with
    | .ok (some _) =>
      ∃ id timeout limit count pending, r.2.1 = .reading id timeout limit count pending ∧
        Open exchanges id
    | _ => Settled exchanges

theorem after_release (follows : Follows start c exchanges) (context : Open exchanges id)
    {given : Pull} (none : ∀ hit, given ≠ .ok (some hit)) : After start (release c id given) := by
  obtain ⟨more, follows, settled⟩ := settled_clearScroll follows context
  unfold release
  split
  · rename_i c' cleared
    rw [cleared] at follows
    refine ⟨more, follows, ?_⟩
    split
    · rename_i hit given
      exact absurd given (none hit)
    · exact settled
  · rename_i e c' failed
    rw [failed] at follows
    exact ⟨more, follows, settled⟩

theorem readReply_fst (id : Value) {v reply : Value} (read : v.reply = .ok reply) :
    (readReply id reply).1 = (Answer.contextId (.value v)).getD id := by
  rw [Answer.contextId_value read, readReply]
  split
  · rename_i e failed
    rw [failed]
    rfl
  · rename_i next found
    rw [found]
    by_cases some : next.truthy <;> simp [Value.orElse, some]

theorem after_fetch (follows : Follows start c exchanges) (context : Open exchanges id)
    (timeout : Value) (limit : Option Int) (count : Nat) :
    After start (fetch c id timeout limit count) := by
  have ran := follows.ran (.scroll id timeout) (by simp)
    (.map [("scroll_id", id), ("scroll", timeout)]) .null
  have still := context.scroll timeout (c.answer (.scroll id timeout))
  rw [fetch, run_eq c "scroll" .null (by rfl)]
  revert ran still
  generalize c.answer (.scroll id timeout) = answer
  intro ran still
  cases answer with
  | refused e => exact after_release ran still nofun
  | broken e => exact after_release ran still nofun
  | value v =>
    cases read : v.reply with
    | error e =>
      rw [Answer.contextId_of_unread read] at still
      simp only [outcome, read]
      exact after_release ran still nofun
    | ok reply =>
      rw [← readReply_fst id read] at still
      simp only [outcome, read]
      split
      · rename_i next e failed
        rw [failed] at still
        exact after_release ran still nofun
      · rename_i next empty
        rw [empty] at still
        exact after_release ran still nofun
      · rename_i next hit rest given
        rw [given] at still
        exact ⟨_, ran, _, _, _, _, _, rfl, still⟩

theorem after_advance (follows : Follows start c exchanges) (context : Open exchanges id)
    (timeout : Value) (limit : Option Int) (count : Nat) (pending : List Value) :
    After start (advance c id timeout limit count pending) := by
  by_cases full : reached limit count = true
  · rw [advance_of_reached full]
    exact after_release follows context nofun
  · cases pending with
    | nil =>
      rw [advance_nil full]
      exact after_fetch follows context timeout limit count
    | cons hit rest =>
      rw [advance_cons full]
      exact ⟨exchanges, follows, _, _, _, _, _, rfl, context⟩

/-- A scroll that goes on in an open context. -/
def Live : Scroll → List Exchange → Prop
  | fresh id _ _, exchanges => Open exchanges id
  | reading id _ _ _ _, exchanges => Open exchanges id
  | finished, _ => False

theorem after_next {scroll : Scroll} (follows : Follows start c exchanges)
    (live : scroll.Live exchanges) : After start (scroll.next c) := by
  cases scroll with
  | fresh id timeout limit =>
    unfold next
    dsimp only
    split
    · exact after_advance follows live _ _ _ _
    · exact after_release follows live nofun
  | reading id timeout limit count pending => exact after_advance follows live _ _ _ _
  | finished => exact live.elim

end Scroll

namespace Cursor

/-- What a cursor in some state has exchanged with the server. -/
def Tracks : Cursor → List Exchange → Prop
  | fresh _, exchanges => exchanges = []
  | first id _ _ _ _, exchanges => if id.truthy then Open exchanges id else Settled exchanges
  | further scroll _ _, exchanges =>
    ∃ id timeout limit count pending, scroll = .reading id timeout limit count pending ∧
      Open exchanges id
  | finished, exchanges => Settled exchanges

/-- A state after which its exchanges are as they should be. -/
def Sound (start : Connection) (s : Cursor) (c : Connection) : Prop :=
  ∃ exchanges, Follows start c exchanges ∧ s.Tracks exchanges

theorem sound_release (follows : Follows start c exchanges)
    (context : if id.truthy then Open exchanges id else Settled exchanges) (given : Pull) :
    (release c id given).2.1 = finished ∧
      Sound start (release c id given).2.1 (release c id given).2.2 := by
  unfold release
  split
  · rename_i truthy
    rw [if_pos truthy] at context
    obtain ⟨more, follows, settled⟩ := settled_clearScroll follows context
    split
    · rename_i c' cleared
      rw [cleared] at follows
      exact ⟨rfl, more, follows, settled⟩
    · rename_i e c' failed
      rw [failed] at follows
      exact ⟨rfl, more, follows, settled⟩
  · rename_i falsy
    rw [if_neg falsy] at context
    exact ⟨rfl, exchanges, follows, context⟩

theorem sound_nextFurther {scroll : Scroll} (follows : Follows start c exchanges)
    (live : scroll.Live exchanges) (skip consumed : Nat) :
    Sound start (nextFurther scroll skip consumed c).2.1
      (nextFurther scroll skip consumed c).2.2 := by
  let Goes (s : Scroll) (c : Connection) := ∃ exchanges, Follows start c exchanges ∧ s.Live exchanges
  -- a hit that is skipped leaves the context open
  have step : ∀ {s c hit t d}, Goes s c → s.next c = (.ok (some hit), t, d) → Goes t d := by
    rintro s c hit t d ⟨exchanges, follows, live⟩ given
    have after := Scroll.after_next follows live
    rw [given] at after
    obtain ⟨more, follows, _, _, _, _, _, rfl, context⟩ := after
    exact ⟨more, follows, context⟩
  obtain ⟨s, d, ⟨more, follows, live⟩, same⟩ :=
    Scroll.nextBehind_eq_next step (skip - consumed) ⟨exchanges, follows, live⟩
  have after := Scroll.after_next follows live
  rw [nextFurther_eq, same]
  generalize s.next d = stepped at after
  obtain ⟨e | _ | hit, scroll, c⟩ := stepped <;> exact after

theorem Turn.sound_take (turn : Turn id) (follows : Follows start c exchanges)
    (context : if id.truthy then Open exchanges id else Settled exchanges) (w : Window)
    (hadHits : Bool) :
    Sound start (turn.take w hadHits c).2.1 (turn.take w hadHits c).2.2 := by
  cases turn with
  | gives hit consumed rest => exact ⟨exchanges, follows, context⟩
  | ends => exact (sound_release follows context _).2
  | fails e => exact (sound_release follows context _).2
  | scrolls named skip consumed remaining =>
    rw [if_pos named] at context
    refine sound_nextFurther follows ?_ _ _
    exact context

theorem sound_opening {parameters : Entries} {answer : Answer} {w : Window} {query : Value}
    (follows : Follows start c [(⟨"search", parameters⟩, answer)]) :
    Sound start (opening w (outcome query .null answer, c)).2.1
      (opening w (outcome query .null answer, c)).2.2 := by
  cases answer with
  | refused e => exact ⟨_, follows, .search rfl _⟩
  | broken e => exact ⟨_, follows, .search rfl _⟩
  | value v =>
    cases read : v.reply with
    | error e =>
      have closed : (Answer.value v).opens = false := by
        rw [Answer.opens, Answer.contextId_of_unread read]
        rfl
      simp only [outcome, read]
      exact ⟨_, follows, .search closed _⟩
    | ok reply =>
      simp only [outcome, read]
      obtain ⟨e, unread, stops⟩ | ⟨id, hits, turn, found, taken⟩ := opening_turn w reply
      · rw [stops]
        exact ⟨_, follows, .search (Answer.opens_of_readFirst_error read unread) _⟩
      · obtain ⟨named, given⟩ := Answer.contextId_of_readFirst read found
        have context : if id.truthy then Open [(⟨"search", parameters⟩, .value v)] id
            else Settled [(⟨"search", parameters⟩, .value v)] := by
          split
          · rename_i truthy
            rw [if_pos truthy] at named
            exact .search (by simp [Answer.opens, named, given]) named _
          · rename_i falsy
            rw [if_neg falsy] at named
            exact .search (by simp [Answer.opens, named]) _
        rw [taken]
        exact turn.sound_take follows context _ _

theorem sound_start (query : Value) (follows : Follows start c []) :
    Sound start (Cursor.start query c).2.1 (Cursor.start query c).2.2 := by
  obtain ⟨e, -, unasked⟩ | ⟨first, found, asked⟩ := start_cases query c
  · rw [unasked]
    exact ⟨[], follows, .nil⟩
  · obtain ⟨index, body, sent⟩ := firstQuery_eq_ok found
    rw [asked, select, sent, run_eq c "search" .null (by rfl)]
    exact sound_opening (follows.ran _ (by simp) _ _)

theorem sound_next {s : Cursor} (sound : Sound start s c) :
    Sound start (s.next c).2.1 (s.next c).2.2 := by
  obtain ⟨exchanges, follows, tracks⟩ := sound
  cases s with
  | fresh query =>
    obtain rfl : exchanges = [] := tracks
    exact sound_start query follows
  | first id w hadHits consumed pending =>
    obtain ⟨turn, taken⟩ := nextFirst_turn id w hadHits consumed pending
    rw [next, taken]
    exact turn.sound_take follows tracks _ _
  | further scroll skip consumed =>
    obtain ⟨_, _, _, _, _, rfl, context⟩ := tracks
    refine sound_nextFurther follows ?_ skip consumed
    exact context
  | finished => exact ⟨exchanges, follows, tracks⟩

theorem settled_close {s : Cursor} (sound : Sound start s c) :
    ∃ exchanges, Follows start (s.close c).2.2 exchanges ∧ Settled exchanges := by
  obtain ⟨exchanges, follows, tracks⟩ := sound
  cases s with
  | fresh query =>
    obtain rfl : exchanges = [] := tracks
    exact ⟨[], follows, .nil⟩
  | first id w hadHits consumed pending =>
    obtain ⟨done, more, follows, settled⟩ := sound_release follows tracks (.ok none)
    rw [done] at settled
    unfold close
    dsimp only
    split
    all_goals
      rename_i released
      rw [released] at follows
      exact ⟨more, follows, settled⟩
  | further scroll skip consumed =>
    obtain ⟨_, _, _, _, _, rfl, context⟩ := tracks
    exact settled_clearScroll follows context
  | finished => exact ⟨exchanges, follows, tracks⟩

/-- A number of steps and then the close: what each step gives, what the close gives, and the
connection after them. A cursor that has ended or failed already closes without effect. -/
def live : Nat → Cursor → Connection → List Pull × Except Error Unit × Connection
  | 0, s, c =>
    let (closed, _, c) := s.close c
    ([], closed, c)
  | n + 1, s, c =>
    let (pull, s, c) := s.next c
    let (pulls, closed, c) := live n s c
    (pull :: pulls, closed, c)

theorem settled_live (n : Nat) {s : Cursor} (sound : Sound start s c) :
    ∃ exchanges, Follows start (live n s c).2.2 exchanges ∧ Settled exchanges := by
  induction n generalizing s c with
  | zero => exact settled_close sound
  | succ n ih => exact ih (sound_next sound)

theorem live_forgiving (n : Nat) (s : Cursor) (c : Connection) :
    live n s c.forgiving = forgive (live n s c) := by
  induction n generalizing s c with
  | zero =>
    unfold live
    rw [close_forgiving]
    rfl
  | succ n ih =>
    unfold live
    rw [next_forgiving]
    simp only [forgive, ih]

/-- Over the life of a cursor, whatever the server answers and after however many steps it is
closed, every request for hits and every release names the context as the latest reply did that had
an id. If the first reply has an id, and its hits can be looked up, the context is released once
and last; otherwise there is no release. What the cursor gives is the same as if no release were
refused. -/
theorem live_releases_once (n : Nat) (query : Value) (c : Connection) :
    ∃ later, (live n (fresh query) c).2.2.client.calls = c.client.calls ++ later ∧
      let exchanges := c.client.server.exchanges c.client.calls later
      NamesLatest exchanges ∧
        (∀ answer id, firstAnswer exchanges = some answer → answer.contextId = some id →
          if answer.hasBatch then ReleasedLast exchanges else Unreleased exchanges) ∧
        ((∀ answer, firstAnswer exchanges = some answer → answer.contextId = none) →
          Unreleased exchanges) ∧
        (live n (fresh query) c.forgiving).1 = (live n (fresh query) c).1 ∧
        (live n (fresh query) c.forgiving).2.1 = (live n (fresh query) c).2.1 := by
  have sound : Sound c (fresh query) c := ⟨[], .refl c, rfl⟩
  obtain ⟨exchanges, follows, settled⟩ := settled_live n sound
  obtain ⟨later, calls, rfl⟩ := follows.calls
  refine ⟨later, calls, settled.named, fun answer id first named => ?_, fun unnamed => ?_, ?_, ?_⟩
  · split
    · rename_i given
      exact settled.released (by simp [Exchange.opened, first, Answer.opens, named, given])
    · rename_i lost
      exact settled.unopened (by simp [Exchange.opened, first, Answer.opens, lost])
  · refine settled.unopened ?_
    cases first : firstAnswer (c.client.server.exchanges c.client.calls later) with
    | none => simp [Exchange.opened, first]
    | some answer => simp [Exchange.opened, first, Answer.opens, unnamed answer first]
  · rw [live_forgiving]
    rfl
  · rw [live_forgiving]
    rfl

/-- A server that changes the id of a context with the second batch. -/
def moving : Server :=
  .scripted [("search", [batch "s0" [.int 1]]), ("scroll", [batch "s1" [.int 2]])]
where
  batch (id : Value) (hits : List Value) : Answer :=
    .value (.map [("_scroll_id", id), ("hits", .map [("hits", .list hits)])])

/-- Closed in its second batch, a cursor releases the context under the id that it has by then. -/
theorem live_releases_once_moving :
    let c := Connection.opened .standard moving
    let calls := (live 2 (fresh (.map [("index", "posts"), ("body", .map [])])) c).2.2.client.calls
    let exchanges := moving.exchanges [] calls
    (firstAnswer exchanges).bind Answer.contextId = some "s0" ∧ latestId exchanges = some "s1" ∧
      NamesLatest exchanges ∧ ReleasedLast exchanges := by
  intro c calls exchanges
  obtain ⟨later, sent, named, released, -⟩ :=
    live_releases_once 2 (.map [("index", "posts"), ("body", .map [])]) c
  rw [show later = calls from sent.symm] at named released
  have first : firstAnswer exchanges = some (moving.batch "s0" [.int 1]) := by
    with_unfolding_all rfl
  refine ⟨by rw [first]; rfl, ?_, named, released _ "s0" first rfl⟩
  with_unfolding_all rfl

end Cursor

end DocumentSearch
