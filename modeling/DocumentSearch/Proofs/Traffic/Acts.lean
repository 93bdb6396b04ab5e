import DocumentSearch.Proofs.Traffic.Cause

/-!
# Why actions fail

What builders and records do is explained by the request that they send, if they send one, and a
cursor over documents by the cursor over hits that it reads. Only such a cursor that is left early,
or that cannot read a hit, drops what comes of releasing its context.
-/
namespace DocumentSearch

open Connection Exchange Outcome

/-- A result over the connection of a line, with no value bound, that its exchanges explain. -/
def Connection.Brings {α : Type} (c : Connection) (x : Except Error α) (line : Line) : Prop :=
  ∃ c', line = some c' ∧ Yields false .null c x c'

namespace Connection.Brings

variable {α β : Type} {c c' : Connection} {x : Except Error α} {line : Line}

theorem refl (c : Connection) (x : Except Error α) : Brings c x (some c) := ⟨c, rfl, .refl c x⟩

theorem of_yields (h : Yields false .null c x c') : Brings c x (some c') := ⟨c', rfl, h⟩

theorem of_error {e : Error} (h : Brings c (.error e : Except Error α) line) :
    Brings c (.error e : Except Error β) line := by
  obtain ⟨c', rfl, yields⟩ := h
  exact of_yields yields.of_error

theorem of_ok {a : α} (h : Brings c (.ok a : Except Error α) line) (y : Except Error β) :
    Brings c y line := by
  obtain ⟨c', rfl, yields⟩ := h
  exact of_yields (yields.of_ok y)

theorem map (h : Brings c x line) (f : α → β) : Brings c (x.map f) line := by
  obtain ⟨c', rfl, yields⟩ := h
  exact of_yields (yields.map f)

end Connection.Brings

section Acts

variable (d : Dialect) (store : Store) (b : Builder) (c : Connection)

namespace Builder

theorem brings_insert (values : Value) :
    Brings c (b.insert d values (some c)).1 (b.insert d values (some c)).2 := by
  unfold Builder.insert
  split
  · exact .refl c _
  · exact .refl c _
  · dsimp only
    split
    · exact .refl c _
    · rename_i query _
      have sent := yields_insert c (.map query) .null
      split <;> rename_i done <;> rw [done] at sent
      · exact .of_yields sent.of_error
      · exact .of_yields (sent.of_ok _)

theorem brings_write {α : Type} {method : String} (among : method ∈ Connection.methods)
    (query : Except Error Entries) (outcome : Value → Except Misuse α) :
    Brings c (write method query outcome (some c)).1 (write method query outcome (some c)).2 := by
  unfold write
  dsimp only
  split
  · exact .refl c _
  · rename_i query
    have sent := yields_run false c method (.map query) .null among
    split <;> rename_i done <;> rw [done] at sent
    · exact .of_yields sent.of_error
    · exact .of_yields (sent.of_ok _)

theorem brings_delete (id : Value) :
    Brings c (b.delete d store id (some c)).1 (b.delete d store id (some c)).2 := by
  unfold Builder.delete
  split
  · exact brings_write c (by decide) _ _
  · exact brings_write c (by decide) _ _

theorem brings_fetch :
    Brings c (b.fetch d store (some c)).1 (b.fetch d store (some c)).2.2 := by
  unfold Builder.fetch
  dsimp only
  split
  · exact .refl c _
  · rename_i request _
    have asked := yields_run false c "search" (.map request.toEntries) .null (by decide)
    unfold select
    split <;> rename_i done <;> rw [done] at asked
    · exact .of_yields asked.of_error
    · split <;> exact .of_yields (asked.of_ok _)

theorem brings_results :
    Brings c (b.results d store (some c)).1 (b.results d store (some c)).2.2 := by
  unfold Builder.results
  split
  · exact .refl c _
  · exact b.brings_fetch d store c

theorem brings_read (columns : Value) :
    Brings c (b.read d store columns (some c)).1 (b.read d store columns (some c)).2.2 := by
  unfold Builder.read
  split
  · exact .refl c _
  · exact brings_results d store _ c

theorem brings_readFirst (columns : Value) :
    Brings c (b.readFirst d store columns (some c)).1 (b.readFirst d store columns (some c)).2.2 := by
  have read := brings_read d store { b with limit := some (.int 1) } c columns
  unfold Builder.readFirst
  split <;> rename_i done <;> rw [done] at read
  · exact read.of_ok _
  · exact read.of_error

theorem brings_paginate (page perPage : Value) :
    Brings c (b.paginate d store page perPage (some c)).1
      (b.paginate d store page perPage (some c)).2.2 := by
  unfold Builder.paginate
  split
  · exact .refl c _
  · rename_i turned _
    have read := turned.brings_read d store c .null
    split <;> rename_i done <;> rw [done] at read
    · exact read.of_error
    · exact read.of_ok _

theorem brings_count :
    Brings c (b.count d store (some c)).1 (b.count d store (some c)).2 := by
  unfold Builder.count
  split
  · exact .refl c _
  · have counted := b.counter.brings_results d store c
    split <;> rename_i done <;> rw [done] at counted
    · exact counted.of_error
    · exact counted.of_ok _

theorem brings_summaryRead (f : Summary → Value) :
    Brings c (b.summaryRead d store (some c) f).1 (b.summaryRead d store (some c) f).2.2 := by
  have read := b.brings_results d store c
  unfold Builder.summaryRead
  split <;> rename_i done <;> rw [done] at read
  · exact read.of_error
  · exact read.of_ok _

end Builder

theorem Action.brings_perform {w : Workspace} (here : w.line = some c) (ref : Ref)
    (action : Action) :
    Brings c (action.perform d w ref).1 (action.perform d w ref).2.line := by
  obtain ⟨store, line⟩ := w
  obtain rfl : line = some c := here
  have added : ∀ b, Brings c (adding ⟨store, some c⟩ b).1 (adding ⟨store, some c⟩ b).2.line :=
    fun b => by cases b <;> exact .refl c _
  cases action with
  | fluent | searchRequest | openCursor | routing | parentId | option => exact .refl c _
  | clone | cloneWithout | newQuery => exact added _
  | read columns => exact (Builder.brings_read d store _ c columns).map _
  | readFirst columns => exact (Builder.brings_readFirst d store _ c columns).map _
  | paginate perPage page => exact (Builder.brings_paginate d store _ c page perPage).map _
  | count => exact (Builder.brings_count d store _ c).map _
  | aggregationResults | duration | rawReply =>
    exact (Builder.brings_summaryRead d store _ c _).map _
  | insert values => exact (Builder.brings_insert d _ c values).map _
  | update values => exact (Builder.brings_write c (by decide) _ _).map _
  | updateByQuery script params => exact (Builder.brings_write c (by decide) _ _).map _
  | delete id => exact (Builder.brings_delete d store _ c id).map _

namespace Record

variable {given : Bool}

theorem brings_add (cls : RecordClass) (attributes : List (String × Value)) :
    Brings c (add d cls attributes (if given then some c else none) (some c)).1
      (add d cls attributes (if given then some c else none) (some c)).2 := by
  unfold add
  split
  · exact .refl c _
  · rename_i connected
    obtain rfl := Option.some.inj (RecordClass.line_of_connection connected)
    split
    · exact .refl c _
    · exact Builder.brings_insert d _ c _

theorem brings_remove (cls : RecordClass) (attributes : List (String × Value)) :
    Brings c (remove d store cls attributes (if given then some c else none) (some c)).1
      (remove d store cls attributes (if given then some c else none) (some c)).2 := by
  unfold remove
  split
  · exact .refl c _
  · rename_i connected
    obtain rfl := Option.some.inj (RecordClass.line_of_connection connected)
    exact Builder.brings_delete d store _ c _

theorem brings_addAll (records : List Value) :
    Brings c (addAll d records (if given then some c else none) (some c)).1
      (addAll d records (if given then some c else none) (some c)).2 := by
  unfold addAll
  split
  · exact .refl c _
  · split
    · exact .refl c _
    · split
      · split
        · exact .refl c _
        · rename_i connected
          obtain rfl := Option.some.inj (RecordClass.line_of_connection connected)
          split
          · exact .refl c _
          · exact Builder.brings_insert d _ c _
      · exact .refl c _

end Record

end Acts

/-- A connection that another one has become by releases alone. -/
def Connection.Releases (c c' : Connection) : Prop :=
  ∃ exchanges, Follows c c' exchanges ∧ ∀ exchange ∈ exchanges, exchange.1.method = "clear_scroll"

namespace Connection.Releases

theorem refl (c : Connection) : Releases c c := ⟨[], .refl c, nofun⟩

theorem clearScroll (c : Connection) (id : Value) : Releases c (c.clearScroll id).2 := by
  rw [clearScroll_eq]
  exact ⟨_, answer_release c id, by simp⟩

end Connection.Releases

theorem Scroll.close_releases (s : Scroll) (c : Connection) : Releases c (s.close c).2.2 := by
  cases s with
  | reading id timeout limit count pending => exact .clearScroll c id
  | fresh | finished => exact .refl c

theorem Cursor.close_releases (s : Cursor) (c : Connection) : Releases c (s.close c).2.2 := by
  cases s with
  | first id w hadHits consumed pending =>
    have released : Releases c (release c id (.ok none)).2.2 := by
      have cleared := Releases.clearScroll c id
      unfold release
      split
      · split <;> rename_i done <;> rwa [done] at cleared
      · exact .refl c
    unfold close
    dsimp only
    split <;> rename_i done <;> rwa [done] at released
  | further scroll skip consumed => exact scroll.close_releases c
  | fresh | finished => exact .refl c

/-- A result that exchanges explain, but for releases that are dropped where something is given up.
There are no releases at all unless there may be. -/
structure Connection.Accounts {α : Type} (releasing : Bool) (bindings : Value) (givenUp : Prop)
    (c : Connection) (x : Except Error α) (c' : Connection) (told dropped : List Exchange) :
    Prop where
  follows : Follows c c' (told ++ dropped)
  explained : Explained bindings told x
  givenUp : dropped ≠ [] → givenUp
  releases : ∀ exchange ∈ dropped, exchange.1.method = "clear_scroll"
  withheld : releasing = false → ∀ exchange ∈ told ++ dropped, exchange.1.method ≠ "clear_scroll"

def Connection.Accounted {α : Type} (releasing : Bool) (bindings : Value) (givenUp : Prop)
    (c : Connection) (x : Except Error α) (c' : Connection) : Prop :=
  ∃ told dropped, Accounts releasing bindings givenUp c x c' told dropped

namespace Connection.Accounted

variable {α β : Type} {releasing : Bool} {bindings : Value} {givenUp : Prop} {c c' c'' : Connection}
  {x : Except Error α}

theorem of_yields (h : Yields releasing bindings c x c') (givenUp : Prop) :
    Accounted releasing bindings givenUp c x c' := by
  obtain ⟨told, follows, explained, withheld⟩ := h
  exact ⟨told, [], by simpa using follows, explained, nofun, nofun, by simpa using withheld⟩

theorem drop (h : Yields true bindings c x c') (rest : Releases c' c'') (given : givenUp) :
    Accounted true bindings givenUp c x c'' := by
  obtain ⟨told, follows, explained, -⟩ := h
  obtain ⟨dropped, onwards, releases⟩ := rest
  exact ⟨told, dropped, follows.trans onwards, explained, fun _ => given, releases, nofun⟩

theorem imp {y : Except Error β} {other : Prop} (h : Accounted releasing bindings givenUp c x c')
    (kept : ∀ e, x = .error e → y = .error e) (weaker : givenUp → other) :
    Accounted releasing bindings other c y c' := by
  obtain ⟨told, dropped, accounts⟩ := h
  exact ⟨told, dropped, accounts.follows, accounts.explained.imp kept,
    fun some => weaker (accounts.givenUp some), accounts.releases, accounts.withheld⟩

end Connection.Accounted

namespace DocumentCursor

/-- A hit that cannot be read gives a cursor up, and what comes of releasing its context is
dropped. -/
theorem accounted_pull (store : Store) (ref : Ref) (s : Cursor) (c : Connection) :
    Accounted true .null (∃ m, (pull store ref s c).1 = .error (.misuse m)) c (pull store ref s c).1
      (pull store ref s c).2.2 := by
  have pulled := Cursor.yields_next (c := c) s
  unfold pull
  split
  · rename_i done
    rw [done] at pulled
    exact .of_yields pulled _
  · rename_i done
    rw [done] at pulled
    exact .of_yields pulled _
  · rename_i done
    rw [done] at pulled
    split
    · exact .of_yields (pulled.of_ok _) _
    -- the hit was given without an error, so only the releases that follow can be lost
    · exact .drop (pulled.of_ok _) (Cursor.close_releases _ _) ⟨_, rfl⟩

theorem accounted_nextOn (d : Dialect) (store : Store) (s : DocumentCursor) (c : Connection) :
    Accounted true .null (∃ m, (s.nextOn d store c).1 = .error (.misuse m)) c (s.nextOn d store c).1
      (s.nextOn d store c).2.2 := by
  have still : ∀ x : Pull, Yields true .null c x c := .refl c
  cases s with
  | fresh ref =>
    unfold nextOn
    dsimp only
    split
    · exact .of_yields (still _) _
    · exact accounted_pull store ref _ c
  | running ref cursor => exact accounted_pull store ref cursor c
  | finished => exact .of_yields (still _) _

theorem accounted_closeOn (s : DocumentCursor) (c : Connection) :
    Accounted true .null ((s.closeOn c).1 = .ok ()) c (s.closeOn c).1 (s.closeOn c).2.2 := by
  have still : Yields true .null c (.ok () : Except Error Unit) c := .refl c _
  cases s with
  | running ref cursor => exact .drop still (cursor.close_releases c) rfl
  | fresh | finished => exact .of_yields still _

end DocumentCursor

namespace OpenCursor

def overDocuments : OpenCursor → Bool
  | documents _ => true
  | _ => false

theorem accounted_next (d : Dialect) (store : Store) (reader : OpenCursor) (c : Connection) :
    ∃ c', (reader.next d store (some c)).2.2 = some c' ∧
      Accounted true .null (reader.overDocuments = true ∧
        ∃ m, (reader.next d store (some c)).1 = .error (.misuse m)) c
        (reader.next d store (some c)).1 c' := by
  cases reader with
  | documents cursor =>
    exact ⟨_, rfl, (cursor.accounted_nextOn d store c).imp (fun _ => id) fun gone => ⟨rfl, gone⟩⟩
  | hits cursor => exact ⟨_, rfl, .of_yields cursor.yields_next _⟩
  | scroll scroll => exact ⟨_, rfl, .of_yields scroll.yields_next _⟩

theorem accounted_close (reader : OpenCursor) (c : Connection) :
    ∃ c', (reader.close (some c)).2.2 = some c' ∧
      Accounted true .null (reader.overDocuments = true ∧ (reader.close (some c)).1 = .ok ()) c
        (reader.close (some c)).1 c' := by
  cases reader with
  | documents cursor =>
    exact ⟨_, rfl, (cursor.accounted_closeOn c).imp (fun _ => id) fun gone => ⟨rfl, gone⟩⟩
  | hits cursor => exact ⟨_, rfl, .of_yields cursor.yields_close _⟩
  | scroll scroll => exact ⟨_, rfl, .of_yields scroll.yields_close _⟩

end OpenCursor

namespace Errand

def releases : Errand → Bool
  | work (.next _) | work (.close _) | clearScroll _ | advance _ | leave _ => true
  | _ => false

/-- An errand that leaves a cursor over documents early, or that finds a hit which the cursor cannot
read. -/
def GivesUp (d : Dialect) (s : Station) (errand : Errand) : Prop :=
  match errand with
  | work (.next _) => ∃ m, errand.result d s = .error (.misuse m)
  | work (.close _) => errand.result d s = .ok none
  | advance place => (∃ reader, s.readers[place]? = some reader ∧ reader.overDocuments = true) ∧
    ∃ m, errand.result d s = .error (.misuse m)
  | leave place => (∃ reader, s.readers[place]? = some reader ∧ reader.overDocuments = true) ∧
    errand.result d s = .ok none
  | _ => False

/-- What an errand comes to is accounted for by its exchanges, unless it administers indices. -/
def Accounted (d : Dialect) (s : Station) (c : Connection) (errand : Errand) : Prop :=
  ∃ c', (errand.perform d s).line = some c' ∧
    Connection.Accounted errand.releases errand.bindings (errand.GivesUp d s) c (errand.result d s) c'

variable {d : Dialect} {s : Station} {c : Connection}

theorem accounted_of_brings {errand : Errand} (releases : errand.releases = false)
    (unbound : errand.bindings = .null) {α : Type} {x : Except Error α}
    (brings : Brings c x (errand.perform d s).line) (f : α → Option Value)
    (shown : errand.result d s = x.map f) : errand.Accounted d s c := by
  obtain ⟨c', after, yields⟩ := brings
  refine ⟨c', after, ?_⟩
  rw [releases, unbound, shown]
  exact .of_yields (yields.map f) _

theorem accounted_still {errand : Errand} (here : s.line = some c)
    (after : (errand.perform d s).line = s.line) : errand.Accounted d s c := by
  have still : Yields errand.releases errand.bindings c (errand.result d s) c := .refl c _
  exact ⟨c, after.trans here, .of_yields still _⟩

theorem accounted_work (here : s.line = some c) {operation : Operation}
    (other : (work operation).administers = false) : (work operation).Accounted d s c := by
  obtain ⟨⟨⟨store, line⟩, cursors⟩, readers⟩ := s
  obtain rfl : line = some c := here
  cases operation with
  | query | table => exact accounted_still rfl rfl
  | act target action =>
    have acted := action.brings_perform d c (w := ⟨store, some c⟩) rfl target
    refine accounted_of_brings rfl rfl ?_ ActionResult.value? rfl
    change Brings c _ (Operation.perform d ⟨⟨store, some c⟩, cursors⟩ (.act target action)).line
    unfold Operation.perform
    dsimp only
    split <;> rename_i done <;> rw [done] at acted ⊢ <;> exact acted
  | next place =>
    cases found : cursors[place]? with
    | none =>
      refine accounted_still rfl ?_
      simp [perform, Operation.perform, found]
    | some cursor =>
      have pulled := cursor.accounted_nextOn d store c
      have told : (work (.next place)).result d ⟨⟨⟨store, some c⟩, cursors⟩, readers⟩ =
          (cursor.nextOn d store c).1 := by
        simp [result, Operation.result, found, Desk.line, DocumentCursor.next]
      refine ⟨(cursor.nextOn d store c).2.2, ?_, ?_⟩
      · simp [perform, Operation.perform, found, DocumentCursor.next]
        rfl
      · rw [GivesUp, told]
        exact pulled
  | close place =>
    cases found : cursors[place]? with
    | none =>
      refine accounted_still rfl ?_
      simp [perform, Operation.perform, found]
    | some cursor =>
      have closed := cursor.accounted_closeOn c
      have told : (work (.close place)).result d ⟨⟨⟨store, some c⟩, cursors⟩, readers⟩ =
          (cursor.closeOn c).1.map fun _ => none := by
        simp [result, Operation.result, found, Desk.line, DocumentCursor.close]
      refine ⟨(cursor.closeOn c).2.2, ?_, ?_⟩
      · simp [perform, Operation.perform, found, DocumentCursor.close]
        rfl
      · rw [GivesUp, told]
        refine closed.imp ?_ ?_
        · rintro e failed
          rw [failed]
          rfl
        · intro done
          rw [done]
          rfl
  | recordQuery cls given =>
    refine accounted_still rfl ?_
    unfold perform Operation.perform
    dsimp only
    split <;> rfl
  | add cls attributes given =>
    exact accounted_of_brings rfl rfl (Record.brings_add d c cls attributes) _ rfl
  | remove cls attributes given =>
    exact accounted_of_brings rfl rfl (Record.brings_remove d store c cls attributes) _ rfl
  | addAll records given =>
    exact accounted_of_brings rfl rfl (Record.brings_addAll d c records) _ rfl
  | administer request => cases other

theorem accounted (here : s.line = some c) {errand : Errand} (other : errand.administers = false) :
    errand.Accounted d s c := by
  have mapped := Station.line_withLine_map here
  have switched : ∀ f : Connection → Connection, (f c).config = c.config → (f c).client = c.client →
      Brings c (.ok () : Except Error Unit) (s.withLine (s.line.map f)).line := by
    intro f config client
    exact ⟨_, mapped f, [], .of_same config client, .of_quiet rfl, by simp⟩
  cases errand with
  | work operation => exact accounted_work here other
  | enableLog => exact accounted_of_brings rfl rfl (switched _ rfl rfl) (fun _ => none) rfl
  | disableLog => exact accounted_of_brings rfl rfl (switched _ rfl rfl) (fun _ => none) rfl
  | flushLog => exact accounted_of_brings rfl rfl (switched _ rfl rfl) (fun _ => none) rfl
  | openCursor | openScroll => exact accounted_still here rfl
  | send sending query bindings =>
    have sent : Yields false bindings c (sending.perform c query bindings).1
        (sending.perform c query bindings).2 := by
      cases sending with
      | bulk => exact yields_insert c query bindings
      | search | update | updateByQuery | delete | deleteByQuery =>
        exact yields_run false c _ query bindings (by decide)
    refine ⟨_, mapped _, ?_⟩
    rw [result, here]
    exact .of_yields (sent.map some) _
  | clearScroll id =>
    refine ⟨_, mapped _, ?_⟩
    rw [result, here]
    exact .of_yields ((yields_clearScroll c id .null).map _) _
  | advance place =>
    cases found : s.readers[place]? with
    | none =>
      refine accounted_still here ?_
      simp [perform, found]
    | some reader =>
      obtain ⟨c', after, pulled⟩ := reader.accounted_next d s.store c
      have told : (advance place).result d s = (reader.next d s.store (some c)).1 := by
        simp [result, found, here]
      refine ⟨c', ?_, ?_⟩
      · simp only [perform, found, here]
        exact after
      · rw [GivesUp, told]
        refine pulled.imp (fun _ => id) ?_
        rintro ⟨documents, gone⟩
        exact ⟨⟨reader, found, documents⟩, gone⟩
  | leave place =>
    cases found : s.readers[place]? with
    | none =>
      refine accounted_still here ?_
      simp [perform, found]
    | some reader =>
      obtain ⟨c', after, closed⟩ := reader.accounted_close c
      have told : (leave place).result d s = (reader.close (some c)).1.map fun _ => none := by
        simp [result, found, here]
      refine ⟨c', ?_, ?_⟩
      · simp only [perform, found, here]
        exact after
      · rw [GivesUp, told]
        refine closed.imp ?_ ?_
        · rintro e failed
          rw [failed]
          rfl
        · rintro ⟨documents, done⟩
          rw [done]
          exact ⟨⟨reader, found, documents⟩, rfl⟩

end Errand

end DocumentSearch
