import DocumentSearch.Proofs.Traffic.Station

/-!
# Requests under a timeout

A connection whose settings have a timeout chooses it before each request, whatever is done with
the connection and however the server answers. The administration of indices works through the same
client and chooses nothing.
-/
namespace DocumentSearch

open Connection

namespace Call

/-- The choice of a timeout for the request that follows. -/
abbrev choosing (timeout : Value) : Call := ⟨"options", [("request_timeout", timeout)]⟩

/-- Calls among which every request comes right after the choice of a timeout. -/
def Timed (timeout : Value) (calls : List Call) : Prop :=
  ∀ before call after, calls = before ++ call :: after → call.method ≠ "options" →
    before.getLast? = some (choosing timeout)

namespace Timed

variable {timeout : Value} {calls more : List Call}

theorem nil (timeout : Value) : Timed timeout [] := by
  intro before call after split
  simp at split

theorem chosen (timeout : Value) : Timed timeout [choosing timeout] := by
  intro before call after split request
  cases before with
  | nil =>
    obtain ⟨rfl, -⟩ := List.cons.inj split
    exact absurd rfl request
  | cons => simp at split

theorem request (timeout : Value) (call : Call) : Timed timeout [choosing timeout, call] := by
  intro before other after split request
  match before with
  | [] =>
    obtain ⟨rfl, -⟩ := List.cons.inj split
    exact absurd rfl request
  | [first] =>
    obtain ⟨rfl, -⟩ := List.cons.inj split
    rfl
  | _ :: _ :: _ => simp at split

theorem append (h : Timed timeout calls) (k : Timed timeout more) :
    Timed timeout (calls ++ more) := by
  intro before call after split request
  rcases List.append_eq_append_iff.mp split with ⟨earlier, rfl, rest⟩ | ⟨later, rfl, rest⟩
  · rw [List.getLast?_append, k earlier call after rest request]
    rfl
  · cases later with
    | nil =>
      -- the request opens the second part, where no choice stands before it
      have last := k [] call after (by simpa using rest.symm) request
      simp at last
    | cons first later =>
      obtain ⟨rfl, -⟩ := List.cons.inj rest
      exact h before call later rfl request

end Timed

end Call

/-- Calls that go on from earlier ones, with each request under a timeout. -/
def Call.GoOn (timeout : Value) (before after : List Call) : Prop :=
  ∃ later, after = before ++ later ∧ Call.Timed timeout later

namespace Connection

variable {c c' : Connection} {n : Number}

/-- A connection that another one has become with each request under the timeout of its settings,
if they have one. -/
structure InTime (c c' : Connection) : Prop where
  config : c'.config = c.config
  calls : ∀ n, c.config.timeout? = some n → Call.GoOn (.ofNumber n) c.client.calls c'.client.calls

theorem InTime.run (c : Connection) (method : String) (query bindings : Value) :
    InTime c (c.run method query bindings).2 := by
  have timed : ∀ n, c.config.timeout? = some n →
      c.timedClient.calls = c.client.calls ++ [.choosing (.ofNumber n)] := by
    intro n set
    rw [calls_timedClient, chosen, set]
  cases named : parametersOf query with
  | error e =>
    simp only [Connection.run, named]
    exact ⟨rfl, fun n set => ⟨_, timed n set, .chosen _⟩⟩
  | ok parameters =>
    rw [run_of_parameters c method bindings named]
    refine ⟨?_, fun n set => ⟨_, ?_, .request (.ofNumber n) ⟨method, parameters⟩⟩⟩
    · unfold ran
      split <;> simp [sent]
    · simp [calls_ran, timed n set]

theorem InTime.clearScroll (c : Connection) (id : Value) : InTime c (c.clearScroll id).2 := by
  rw [clearScroll_eq]
  refine ⟨rfl, fun n set => ⟨_, ?_, .request (.ofNumber n) (.release id)⟩⟩
  simp [sent, calls_timedClient, chosen, set]

theorem passage_inTime : Passage Any InTime where
  refl c := ⟨rfl, fun n _ => ⟨[], by simp, .nil _⟩⟩
  trans h h' := by
    refine ⟨h'.config.trans h.config, fun n set => ?_⟩
    obtain ⟨earlier, calls, timed⟩ := h.calls n set
    obtain ⟨later, calls', timed'⟩ := h'.calls n (by rw [h.config, set])
    exact ⟨earlier ++ later, by rw [calls', calls, List.append_assoc], timed.append timed'⟩
  run c _ _ _ := .run c _ _ _
  scroll _ _ := by simp [Any, methods]
  clearScroll c id := .clearScroll c id

end Connection

namespace Errand

/-- The calls of an errand: every request is under the timeout, but the calls of an administration
are requests alone. -/
structure Timing (timeout : Value) (errand : Errand) (calls : List Call) : Prop where
  timed : errand.administers = false → Call.Timed timeout calls
  bare : errand.administers = true → ∀ call ∈ calls, call.method ∈ Admin.methods

theorem inTime (d : Dialect) (s : Station) {errand : Errand} (other : errand.administers = false) :
    Option.Rel InTime s.line (errand.perform d s).line := by
  have mapped : ∀ {f : Connection → Connection}, (∀ c, InTime c (f c)) →
      Option.Rel InTime s.line (s.line.map f) := by
    intro f each
    cases s.line with
    | none => exact .none
    | some c => exact .some (each c)
  have still : ∀ {f : Connection → Connection}, (∀ c, (f c).config = c.config) →
      (∀ c, (f c).client = c.client) → ∀ c, InTime c (f c) := by
    intro f config client c
    exact ⟨config c, fun n _ => ⟨[], by simp [client], .nil _⟩⟩
  cases errand with
  | enableLog | disableLog | flushLog => exact mapped (still (fun _ => rfl) fun _ => rfl)
  | send sending query bindings =>
    refine mapped fun c => ?_
    rw [sending.connection_perform]
    exact .run c _ _ _
  | work operation =>
    refine passage_inTime.errand d s ?_
    cases operation with
    | administer => cases other
    | _ => rfl
  | clearScroll | openCursor | openScroll | advance | leave => exact passage_inTime.errand d s rfl

theorem perform_timing (d : Dialect) {s : Station} {c : Connection} (here : s.line = some c)
    {n : Number} (set : c.config.timeout? = some n) (errand : Errand) :
    ∃ c', (errand.perform d s).line = some c' ∧ c'.config = c.config ∧
      ∃ later, c'.client.calls = c.client.calls ++ later ∧ errand.Timing (.ofNumber n) later := by
  cases administers : errand.administers with
  | true =>
    obtain ⟨a, asked, after⟩ := administer_asked d here administers
    obtain ⟨later, calls, all⟩ := asked.calls
    exact ⟨_, after, rfl, later, calls, by simp [administers], fun _ => all⟩
  | false =>
    have kept := inTime d s administers
    rw [here] at kept
    obtain ⟨c', after, kept⟩ := Line.of_rel kept
    obtain ⟨later, calls, timed⟩ := kept.calls n set
    exact ⟨c', after, kept.config, later, calls, fun _ => timed, by simp [administers]⟩

end Errand

namespace Station

theorem journal_timing (d : Dialect) {s : Station} {c : Connection} (here : s.line = some c)
    {n : Number} (set : c.config.timeout? = some n) (errands : List Errand) :
    (s.run d errands).calls = c.client.calls ++ (s.journal d errands).flatMap Prod.snd ∧
      ∀ entry ∈ s.journal d errands, entry.1.Timing (.ofNumber n) entry.2 := by
  induction errands generalizing s c with
  | nil => simp [Station.run, journal, calls, here, Line.calls]
  | cons errand rest ih =>
    obtain ⟨c', after, config, later, calls, timing⟩ := errand.perform_timing d here set
    obtain ⟨others, timings⟩ := ih after (config ▸ set)
    have made : s.made d errand = later := by
      simp [Station.made, Station.calls, here, after, Line.calls, calls]
    refine ⟨?_, List.forall_mem_cons.mpr ⟨made ▸ timing, timings⟩⟩
    rw [journal, List.flatMap_cons, made, ← List.append_assoc, ← calls]
    exact others

/-- Over a connection with a timeout that is not zero, whatever is done and however the server
answers, every request comes right after the choice of the timeout, but for the requests of the
administration of indices, which choose none. -/
theorem run_timed (d : Dialect) (c : Connection) {n : Number}
    (set : c.config.requestTimeout = some n) (counts : n.isZero = false) (errands : List Errand) :
    let s := Station.opened c
    (s.run d errands).calls = c.client.calls ++ (s.journal d errands).flatMap Prod.snd ∧
      ∀ entry ∈ s.journal d errands, entry.1.Timing (.ofNumber n) entry.2 := by
  have timeout : c.config.timeout? = some n := by
    simp [Config.timeout?, set, counts]
  exact journal_timing d rfl timeout errands

def patient : Connection :=
  .opened { Config.standard with requestTimeout := some (.int 5) } (.scripted [])

def dropping : List Errand :=
  [.send .search (.map [("index", "posts")]) .null, .work (.administer (.deleteIndex "posts"))]

theorem run_timed_dropping :
    let s := Station.opened patient
    ((s.journal .standard dropping).map fun entry => entry.2.map Call.method) =
        [["options", "search"], ["indices.delete"]] ∧
      ∀ entry ∈ s.journal .standard dropping, entry.1.Timing (.int 5) entry.2 := by
  exact ⟨rfl, (run_timed .standard patient rfl rfl dropping).2⟩

end Station

end DocumentSearch
