import DocumentSearch.Proofs.Cursor.Refusal
import DocumentSearch.Proofs.Traffic.Acts
import DocumentSearch.Proofs.Traffic.Absence

/-!
# What failures become

Whatever is done over a connection, and however its client fails, the outcome can be told from the
exchanges: a refused request becomes an error about the query or about the administration of
indices, a refused release makes no difference, and any other failure passes through.
-/
namespace DocumentSearch

open Connection Exchange

/-- What comes of a step over a line whose connection now forgives. -/
def Line.forgive {α β : Type} (r : α × β × Line) : α × β × Line :=
  (r.1, r.2.1, r.2.2.map Connection.forgiving)

namespace DocumentCursor

theorem pull_forgiving (store : Store) (ref : Ref) (s : Cursor) (c : Connection) :
    pull store ref s c.forgiving = forgive (pull store ref s c) := by
  unfold pull
  rw [Cursor.next_forgiving]
  cases s.next c with
  | mk given rest =>
    cases given with
    | error e => rfl
    | ok hit =>
      cases hit with
      | none => rfl
      | some hit =>
        simp only [forgive]
        cases Reply.document (store.get ref).expandInnerHits hit with
        | ok document => rfl
        | error e =>
          simp only [Cursor.close_forgiving]
          rfl

theorem nextOn_forgiving (d : Dialect) (store : Store) (s : DocumentCursor) (c : Connection) :
    s.nextOn d store c.forgiving = forgive (s.nextOn d store c) := by
  cases s with
  | fresh ref =>
    unfold nextOn
    dsimp only
    split
    · rfl
    · exact pull_forgiving store ref _ c
  | running ref cursor => exact pull_forgiving store ref cursor c
  | finished => rfl

theorem closeOn_forgiving (s : DocumentCursor) (c : Connection) :
    s.closeOn c.forgiving = forgive (s.closeOn c) := by
  cases s with
  | running ref cursor =>
    simp only [closeOn, Cursor.close_forgiving]
    rfl
  | fresh | finished => rfl

theorem next_forgiving (d : Dialect) (store : Store) (s : DocumentCursor) (line : Line) :
    s.next d store (line.map Connection.forgiving) = Line.forgive (s.next d store line) := by
  cases line with
  | none => cases s <;> rfl
  | some c =>
    simp only [next, Option.map_some, nextOn_forgiving]
    rfl

theorem close_forgiving (s : DocumentCursor) (line : Line) :
    s.close (line.map Connection.forgiving) = Line.forgive (s.close line) := by
  cases line with
  | none => rfl
  | some c =>
    simp only [close, Option.map_some, closeOn_forgiving]
    rfl

end DocumentCursor

namespace OpenCursor

theorem next_forgiving (d : Dialect) (store : Store) (reader : OpenCursor) (line : Line) :
    reader.next d store (line.map Connection.forgiving) =
      Line.forgive (reader.next d store line) := by
  cases reader with
  | documents cursor =>
    simp only [next, DocumentCursor.next_forgiving]
    rfl
  | hits cursor =>
    cases line with
    | none => rfl
    | some c =>
      simp only [next, onLine, Option.map_some, Cursor.next_forgiving]
      rfl
  | scroll scroll =>
    cases line with
    | none => rfl
    | some c =>
      simp only [next, onLine, Option.map_some, Scroll.next_forgiving]
      rfl

theorem close_forgiving (reader : OpenCursor) (line : Line) :
    reader.close (line.map Connection.forgiving) = Line.forgive (reader.close line) := by
  cases reader with
  | documents cursor =>
    simp only [close, DocumentCursor.close_forgiving]
    rfl
  | hits cursor =>
    cases line with
    | none => rfl
    | some c =>
      simp only [close, onLine, Option.map_some, Cursor.close_forgiving]
      rfl
  | scroll scroll =>
    cases line with
    | none => rfl
    | some c =>
      simp only [close, onLine, Option.map_some, Scroll.close_forgiving]
      rfl

end OpenCursor

/-- A station whose server accepts every release that it would refuse. -/
def Station.forgiving (s : Station) : Station := s.withLine (s.line.map Connection.forgiving)

section Forgiving

variable (d : Dialect) (s : Station)

theorem Errand.advance_forgiving (place : Nat) :
    (advance place).result d s.forgiving = (advance place).result d s ∧
      (advance place).perform d s.forgiving = ((advance place).perform d s).forgiving := by
  have same : s.forgiving.readers = s.readers := rfl
  unfold result perform
  dsimp only
  rw [same]
  cases s.readers[place]? with
  | none => exact ⟨rfl, rfl⟩
  | some reader =>
    have stepped : reader.next d s.forgiving.store s.forgiving.line =
      Line.forgive (reader.next d s.store s.line) := reader.next_forgiving d s.store s.line
    dsimp only
    rw [stepped]
    exact ⟨rfl, rfl⟩

theorem Errand.leave_forgiving (place : Nat) :
    (leave place).result d s.forgiving = (leave place).result d s ∧
      (leave place).perform d s.forgiving = ((leave place).perform d s).forgiving := by
  have same : s.forgiving.readers = s.readers := rfl
  unfold result perform
  dsimp only
  rw [same]
  cases s.readers[place]? with
  | none => exact ⟨rfl, rfl⟩
  | some reader =>
    have closed : reader.close s.forgiving.line = Line.forgive (reader.close s.line) :=
      reader.close_forgiving s.line
    dsimp only
    rw [closed]
    exact ⟨rfl, rfl⟩

theorem Errand.next_forgiving (place : Nat) :
    (work (.next place)).result d s.forgiving = (work (.next place)).result d s ∧
      (work (.next place)).perform d s.forgiving = ((work (.next place)).perform d s).forgiving := by
  have same : s.forgiving.desk.cursors = s.desk.cursors := rfl
  unfold result perform Operation.result Operation.perform
  dsimp only
  rw [same]
  cases s.desk.cursors[place]? with
  | none => exact ⟨rfl, rfl⟩
  | some cursor =>
    have stepped : cursor.next d s.forgiving.desk.workspace.store s.forgiving.desk.line =
      Line.forgive (cursor.next d s.desk.workspace.store s.desk.line) :=
        cursor.next_forgiving d s.store s.line
    dsimp only
    rw [stepped]
    exact ⟨rfl, rfl⟩

theorem Errand.close_forgiving (place : Nat) :
    (work (.close place)).result d s.forgiving = (work (.close place)).result d s ∧
      (work (.close place)).perform d s.forgiving =
        ((work (.close place)).perform d s).forgiving := by
  have same : s.forgiving.desk.cursors = s.desk.cursors := rfl
  unfold result perform Operation.result Operation.perform
  dsimp only
  rw [same]
  cases s.desk.cursors[place]? with
  | none => exact ⟨rfl, rfl⟩
  | some cursor =>
    have closed : cursor.close s.forgiving.desk.line = Line.forgive (cursor.close s.desk.line) :=
      cursor.close_forgiving s.line
    dsimp only
    rw [closed]
    exact ⟨rfl, rfl⟩

theorem Errand.clearScroll_forgiving (id : Value) :
    (clearScroll id).result d s.forgiving = (clearScroll id).result d s ∧
      (clearScroll id).perform d s.forgiving = ((clearScroll id).perform d s).forgiving := by
  obtain ⟨⟨⟨store, line⟩, cursors⟩, readers⟩ := s
  cases line with
  | none => exact ⟨rfl, rfl⟩
  | some c =>
    have same := c.clearScroll_forgiving id
    simp only [result, perform, Station.forgiving, Station.withLine, Station.line, Desk.withLine,
      Desk.line, Option.map_some, same, and_self]

/-- A refused release makes no difference to what an errand comes to, or to anything later. -/
theorem Errand.perform_forgiving {errand : Errand} (releases : errand.releases = true) :
    errand.result d s.forgiving = errand.result d s ∧
      errand.perform d s.forgiving = (errand.perform d s).forgiving := by
  cases errand with
  | clearScroll id => exact clearScroll_forgiving d s id
  | advance place => exact advance_forgiving d s place
  | leave place => exact leave_forgiving d s place
  | work operation =>
    cases operation with
    | next place => exact next_forgiving d s place
    | close place => exact close_forgiving d s place
    | _ => cases releases
  | _ => cases releases

end Forgiving

theorem Errand.administer_explained (d : Dialect) {s : Station} {c : Connection}
    (here : s.line = some c) (typed : c.client.server.Typed) (request : Admin.Request) :
    ∃ c' exchanges x, ((work (.administer request)).perform d s).line = some c' ∧
      Follows c c' exchanges ∧ (work (.administer request)).result d s = x.map some ∧
      request.Explains exchanges x ∧
      ∀ exchange ∈ exchanges, exchange.1.method ≠ "clear_scroll" := by
  have found : s.desk.line = some c := here
  have asked := Admin.Asked.perform (.opened d.suffix c.client) request
  obtain ⟨later, calls, explains⟩ :=
    request.explained (a := .opened d.suffix c.client) typed
  obtain ⟨sent, same, all⟩ := asked.calls
  obtain rfl : sent = later := List.append_cancel_left (same.symm.trans calls)
  refine ⟨{ c with client := (request.perform (.opened d.suffix c.client)).client }, _, _, ?_,
    ⟨asked.server, rfl, sent, calls, rfl⟩, ?_, explains, ?_⟩
  · simp only [perform, Operation.perform, found]
    rfl
  · simp only [result, Operation.result, found]
  · intro exchange mem release
    have among : exchange.1.method ∈ Admin.methods := all _ (Server.call_mem_of_exchanges mem)
    rw [release] at among
    simp [Admin.methods] at among

/-- Whatever is done at a station, and however the client fails: what it comes to is explained by the
exchanges. The last exchange that raises anything tells the error, where a refused request becomes
an error about the query, and any other failure passes through; the administration of indices turns
a refusal into an error of its own or into the answer that something is absent. A refused release
makes no difference. Only releases by a cursor over documents that is left early or cannot read a
hit are dropped, whatever they raise. -/
theorem Errand.failures_told (d : Dialect) {s : Station} {c : Connection} (here : s.line = some c)
    (typed : c.client.server.Typed) (errand : Errand) :
    ∃ c' told dropped, (errand.perform d s).line = some c' ∧ Follows c c' (told ++ dropped) ∧
      (errand.administers = false → Explained errand.bindings told (errand.result d s)) ∧
      (∀ request, errand = .work (.administer request) →
        ∃ x, errand.result d s = x.map some ∧ request.Explains told x) ∧
      (dropped ≠ [] → errand.GivesUp d s) ∧
      (∀ exchange ∈ dropped, exchange.1.method = "clear_scroll") ∧
      (errand.releases = false →
        ∀ exchange ∈ told ++ dropped, exchange.1.method ≠ "clear_scroll") ∧
      (errand.releases = true → errand.result d s.forgiving = errand.result d s ∧
        errand.perform d s.forgiving = (errand.perform d s).forgiving) := by
  cases administers : errand.administers with
  | true =>
    obtain ⟨request, rfl⟩ := eq_administer administers
    obtain ⟨c', told, x, after, follows, shown, explains, others⟩ :=
      administer_explained d here typed request
    -- an administration drops nothing: all of its exchanges are told
    refine ⟨c', told, [], after, by simpa using follows, nofun, ?_, nofun, nofun, ?_, nofun⟩
    · rintro _ ⟨⟩
      exact ⟨x, shown, explains⟩
    · exact fun _ => by simpa using others
  | false =>
    obtain ⟨c', after, told, dropped, accounts⟩ := accounted (d := d) here administers
    refine ⟨c', told, dropped, after, accounts.follows, fun _ => accounts.explained, ?_,
      accounts.givenUp, accounts.releases, accounts.withheld, perform_forgiving d s⟩
    rintro request rfl
    cases administers

namespace Station

def noContext : ClientError :=
  ⟨.api, "no context", .int 404, .map [("error", .map [("type", "missing")])]⟩

/-- A server that gives a document, refuses to go on and answers a release in one way. -/
def stuck (release : Answer) : Server := fun _ call =>
  if call.method = "search" then
    .value (.map [("_scroll_id", "s0"), ("hits", .map [("hits",
      .list [.map [("_id", "1"), ("_source", .map [("a", .int 1)])]])])])
  else if call.method = "scroll" then .refused noContext
  else release

/-- A station where a cursor over documents has given one, and a scroll has not been started. -/
def halfway (release : Answer) : Station :=
  (opened (.opened .standard (stuck release))).run .standard
    [.work (.table "posts"), .work (.act ⟨0⟩ .openCursor), .work (.next 0),
      .openScroll "s1" .null (.int 0)]

/-- A scroll that the server refuses, with its release. -/
theorem failures_told_halfway :
    ∃ f : ExecutionFailure,
      (Errand.advance 0).result .standard (halfway (.value .null)) = .error (.execution f) ∧
        f.Tells (.scroll "s1" "30s") .null noContext := by
  have typed : (stuck (.value .null)).Typed := by
    intro earlier call r refused
    unfold stuck at refused
    split at refused
    · cases refused
    · split at refused <;> cases refused
      exact .inr ⟨"missing", rfl⟩
  have had : (halfway (.value .null)).exchanged .standard (.advance 0) =
      [(.scroll "s1" "30s", .refused noContext), (.release "s1", .value .null)] := rfl
  obtain ⟨c, here, server⟩ : ∃ c, (halfway (.value .null)).line = some c ∧
    c.client.server = stuck (.value .null) := ⟨_, rfl, rfl⟩
  obtain ⟨c', told, dropped, after, follows, explained, -, givenUp, -⟩ :=
    Errand.failures_told .standard here (server ▸ typed) (.advance 0)
  have none : dropped = [] := by
    by_contra some
    obtain ⟨⟨reader, found, documents⟩, -⟩ := givenUp some
    cases found
    cases documents
  rw [exchanged_eq here after follows, none, List.append_nil] at had
  subst had
  obtain ⟨e, failed, raises⟩ := explained rfl _ rfl
  cases raises with
  | refused tells => exact ⟨_, failed, tells⟩

def hard : Answer := .broken (.fault "hard")

/-- A server whose client says by itself that an alias is missing. -/
def confused : Server := fun _ call =>
  if call.method = "indices.get_alias" then .broken (.admin (.aliasMissing "posts"))
  else .value (.map [("acknowledged", .bool true)])

def moving : Errand := .work (.administer (.swapAlias "posts" "posts_v2" .null))

/-- A failure that is no refusal does not always pass through, and a refused request does not always
give the error: what closing a cursor over documents raises is dropped, what a release raises takes
the place of the error about a refused scroll, and an alias that the client itself says to be
missing is added. -/
theorem failures_lost :
    (halfway hard).exchanged .standard (.work (.close 0)) = [(.release "s0", hard)] ∧
      (Errand.work (.close 0)).result .standard (halfway hard) = .ok none ∧
      (halfway hard).exchanged .standard (.advance 0) =
        [(.scroll "s1" "30s", .refused noContext), (.release "s1", hard)] ∧
      (Errand.advance 0).result .standard (halfway hard) = .error (.fault "hard") ∧
      (opened (.opened .standard confused)).exchanged .standard moving =
        [(Admin.question "posts", .broken (.admin (.aliasMissing "posts"))),
          (Admin.additionOnly [("index", "posts_v2"), ("alias", "posts")],
            .value (.map [("acknowledged", .bool true)]))] ∧
      moving.result .standard (opened (.opened .standard confused)) = .ok (some (.bool true)) := by
  exact ⟨rfl, rfl, rfl, rfl, rfl, rfl⟩

end Station

end DocumentSearch
