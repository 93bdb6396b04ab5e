import DocumentSearch.Proofs.Cache.Reading

/-!
# What a builder remembers in the course of a run

Builders are changed, copied, read and written through, and cursors are advanced and closed, in any
order. All along, what a builder remembers is what came of the last fetch that was answered for it,
as it shows in the exchanges with the server, and a reading fetches exactly when it asks for another
page than that fetch was for.
-/
namespace DocumentSearch

open Connection Outcome

namespace Workspace

inductive Step where
  | act (target : Ref) (action : Action)
  | next (cursor : DocumentCursor)
  | close (cursor : DocumentCursor)

def Step.perform (d : Dialect) (w : Workspace) : Step → Workspace
  | act target action => (action.perform d w target).2
  | next cursor => { w with line := (cursor.next d w.store w.line).2.2 }
  | close cursor => { w with line := (cursor.close w.line).2.2 }

def run (d : Dialect) (w : Workspace) (steps : List Step) : Workspace :=
  steps.foldl (fun w step => step.perform d w) w

/-- What is exchanged with the server between two states. -/
def exchanged (w w' : Workspace) : List Exchange :=
  match w.line, w'.line with
  | some c, some c' =>
    c.client.server.exchanges c.client.calls (c'.client.calls.drop c.client.calls.length)
  | _, _ => []

variable {d : Dialect} {w w' : Workspace} {ref : Ref} {server : Server} {last : Option Fetch}

theorem exchanged_of_line (same : w'.line = w.line) : exchanged w w' = [] := by
  unfold exchanged
  rw [same]
  cases w.line with
  | none => rfl
  | some c =>
    dsimp only
    rw [List.drop_length]
    rfl

theorem exchanged_of_follows {c c' : Connection} {exchanges : List Exchange}
    (before : w.line = some c) (after : w'.line = some c') (follows : Follows c c' exchanges) :
    exchanged w w' = exchanges := by
  obtain ⟨later, calls, found⟩ := follows.calls
  unfold exchanged
  rw [before, after]
  dsimp only
  rw [calls, List.drop_left, found]

def Step.reading? (w : Workspace) (ref : Ref) : Step → Option Reading
  | act target action =>
    if target = ref ∧ ref.index < w.store.size then action.reading? else none
  | _ => none

/-- The last fetch for a builder that was answered, after one more step: a reading that is seen to
search and to be given a reply makes it a new one. -/
def fetched (d : Dialect) (ref : Ref) (w : Workspace) (step : Step) (last : Option Fetch) :
    Option Fetch :=
  match step.reading? w ref with
  | none => last
  | some reading =>
    match reading.asked (w.store.get ref), exchanged w (step.perform d w) with
    | .ok asked, [(_, answer)] => (answer.table?.map (Fetch.of asked)).or last
    | _, _ => last

def lastFetch (d : Dialect) (ref : Ref) : Workspace → List Step → Option Fetch → Option Fetch
  | _, [], last => last
  | w, step :: rest, last => lastFetch d ref (step.perform d w) rest (fetched d ref w step last)

end Workspace

open Workspace

/-- How a reading of a builder goes after a last fetch. -/
structure Reading.Faithful (d : Dialect) (w : Workspace) (ref : Ref) (last : Option Fetch)
    (reading : Reading) (result : Except Error ActionResult) (w' : Workspace) : Prop where
  /-- Arguments that do not fit are refused at once. -/
  refused : ∀ e, reading.asked (w.store.get ref) = .error e →
    result = .error e ∧ w'.line = w.line ∧ (w'.store.get ref).memory = (w.store.get ref).memory
  page : ∀ asked, reading.asked (w.store.get ref) = .ok asked →
    (w'.store.get ref).offset = asked.offset ∧ (w'.store.get ref).limit = asked.limit
  /-- On the page of the last fetch nothing is asked, and what is shown is of that fetch. -/
  kept : ∀ asked f, reading.asked (w.store.get ref) = .ok asked → last = some f →
    f.For asked → w'.line = w.line ∧ (w'.store.get ref).Recalls f ∧
      ∃ documents, f.documents = .ok documents ∧
        result = (reading.shown documents (.ofReply f.reply)).map .value
  /-- On any other page there is a fetch. One without a reply is an error and changes nothing that
  is remembered; one with a reply is what is shown and remembered from then on. -/
  fetches : ∀ asked, reading.asked (w.store.get ref) = .ok asked →
    (∀ f, last = some f → ¬f.For asked) →
      ∃ outcome, asked.Fetches d w.store w.line outcome w'.line ∧
        match outcome with
        | .error e => result = .error e ∧
            (w'.store.get ref).memory = (w.store.get ref).memory
        | .ok reply => (w'.store.get ref).Recalls (.of asked reply) ∧
            ∃ documents, (Fetch.of asked reply).documents = .ok documents ∧
              result = (reading.shown documents (.ofReply reply)).map .value

namespace Workspace

variable {d : Dialect} {w w' : Workspace} {ref : Ref} {server : Server} {last : Option Fetch}

theorem faithful (leads : w.line.LeadsTo server) (well : server.RepliesWell)
    (known : ref.index < w.store.size) (remembers : (w.store.get ref).Remembers last)
    (reading : Reading) :
    reading.Faithful d w ref last (reading.action.perform d w ref).1
      (reading.action.perform d w ref).2 := by
  have put : ∀ b, (w.store.set ref b).get ref = b := fun b => w.store.get_set_self ref b known
  constructor
  case refused =>
    intro e refused
    obtain ⟨b, memory, performed⟩ := Reading.perform_of_refused (d := d) refused
    rw [performed]
    exact ⟨rfl, rfl, by rw [put, memory]⟩
  case page =>
    intro asked accepted
    obtain ⟨columns, performed⟩ := Reading.perform_of_asked (d := d) accepted
    rw [performed]
    obtain ⟨cache, summary, same⟩ := asked.results_builder d w.store w.line
    dsimp only
    rw [put, same]
    exact ⟨rfl, rfl⟩
  case kept =>
    intro asked f accepted lastly onPage
    obtain ⟨columns, performed⟩ := Reading.perform_of_asked (d := d) accepted
    have recalls : asked.Recalls f := by
      subst lastly
      exact Builder.Recalls.congr (f := f) remembers (Reading.memory_asked accepted)
    obtain ⟨documents, read, given, still⟩ :=
      Builder.results_of_for d w.store w.line recalls onPage
    rw [performed, given]
    dsimp only
    rw [put]
    refine ⟨rfl, still.congr rfl, documents, read, ?_⟩
    rw [still.summary]
    rfl
  case fetches =>
    intro asked accepted turned
    obtain ⟨columns, performed⟩ := Reading.perform_of_asked (d := d) accepted
    have same := Reading.memory_asked accepted
    have results : asked.results d w.store w.line = asked.fetch d w.store w.line := by
      rw [Builder.results, (remembers.congr same).kept?_eq_none turned]
    obtain ⟨outcome, line', went, given⟩ := Builder.fetch_spec d w.store asked leads well
    rw [performed, results]
    cases outcome with
    | error e =>
      rw [given]
      exact ⟨.error e, went, rfl, by dsimp only; rw [put]; exact same⟩
    | ok reply =>
      obtain ⟨documents, read, given⟩ := given
      rw [given]
      refine ⟨.ok reply, went, ?_, documents, read, rfl⟩
      dsimp only
      rw [put]
      exact (Builder.recalls_keep read).congr rfl

/-- What a reading leaves to be remembered is what its exchanges show. -/
theorem remembers_reading {reading : Reading} {result : Except Error ActionResult}
    (remembers : (w.store.get ref).Remembers last)
    (faithful : reading.Faithful d w ref last result w') :
    (w'.store.get ref).Remembers
      (match reading.asked (w.store.get ref), exchanged w w' with
        | .ok asked, [(_, answer)] => (answer.table?.map (Fetch.of asked)).or last
        | _, _ => last) := by
  cases accepted : reading.asked (w.store.get ref) with
  | error e =>
    obtain ⟨-, -, memory⟩ := faithful.refused e accepted
    exact remembers.congr memory
  | ok asked =>
    by_cases onPage : ∃ f, last = some f ∧ f.For asked
    · obtain ⟨f, rfl, onPage⟩ := onPage
      obtain ⟨line, recalls, -⟩ := faithful.kept asked f accepted rfl onPage
      rw [exchanged_of_line line]
      exact recalls
    · have turned : ∀ f, last = some f → ¬f.For asked := fun f lastly page =>
        onPage ⟨f, lastly, page⟩
      obtain ⟨outcome, went, left⟩ := faithful.fetches asked accepted turned
      -- Only a fetch with a reply leaves an exchange whose answer can be read.
      generalize before : w.line = line at went
      generalize after : w'.line = line' at went
      cases went with
      | unbound =>
        rw [exchanged_of_line (after.trans before.symm)]
        exact remembers.congr left.2
      | unwritten refused =>
        rw [exchanged_of_line (after.trans before.symm)]
        exact remembers.congr left.2
      | unread written sent unread =>
        rw [exchanged_of_follows before after sent]
        dsimp only
        rw [unread]
        exact remembers.congr left.2
      | replied written sent read =>
        rw [exchanged_of_follows before after sent]
        dsimp only
        rw [read]
        exact left.1

/-- What holds of a builder, present or still to come, all along a run. -/
structure Tracks (server : Server) (ref : Ref) (w : Workspace) (last : Option Fetch) : Prop where
  leads : w.line.LeadsTo server
  present : ref.index < w.store.size → (w.store.get ref).Remembers last
  absent : w.store.size ≤ ref.index → last = none

theorem Step.perform_leadsTo (d : Dialect) (step : Step) (h : w.line.LeadsTo server) :
    (step.perform d w).line.LeadsTo server := by
  cases step with
  | act target action => exact action.perform_leadsTo d w target h
  | next cursor => exact cursor.next_leadsTo d w.store h
  | close cursor => exact cursor.close_leadsTo h

/-- What is no reading of a builder keeps what it remembers, and a builder that it adds remembers
nothing. -/
theorem Tracks.of_keeps {other : Workspace} (h : Tracks server ref w last)
    (leads : other.line.LeadsTo server) (keeps : w.store.Keeps other.store) :
    Tracks server ref other last where
  leads := leads
  present known := by
    by_cases earlier : ref.index < w.store.size
    · exact (h.present earlier).congr (keeps.memory ref earlier)
    · have unknown : w.store.size ≤ ref.index := by omega
      rw [h.absent unknown]
      exact (Prod.mk.inj (keeps.added ref unknown known)).1
  absent unknown := h.absent (Nat.le_trans keeps.size unknown)

theorem Tracks.step (well : server.RepliesWell) (h : Tracks server ref w last) (d : Dialect)
    (step : Step) : Tracks server ref (step.perform d w) (fetched d ref w step last) := by
  have leads := step.perform_leadsTo d h.leads
  cases step with
  | next cursor => exact h.of_keeps leads (.refl _)
  | close cursor => exact h.of_keeps leads (.refl _)
  | act target action =>
    -- A reading of a builder that is not there puts nothing back, so it counts as no reading.
    by_cases own : target = ref ∧ ref.index < w.store.size
    · obtain ⟨rfl, known⟩ := own
      unfold fetched
      rw [show Step.reading? w target (.act target action) = action.reading? from
        if_pos ⟨rfl, known⟩]
      cases kind : action.reading? with
      | none => exact h.of_keeps leads (action.perform_keeps d w target kind)
      | some reading =>
        obtain rfl : reading.action = action := Action.action_reading? kind
        obtain ⟨b, put⟩ := Action.perform_reading_store d w target kind
        have size : (Step.perform d w (.act target reading.action)).store.size = w.store.size := by
          rw [Step.perform, put, Store.size_set]
        refine ⟨leads, fun _ => ?_, fun unknown => absurd known (by omega)⟩
        exact remembers_reading (h.present known)
          (faithful h.leads well known (h.present known) reading)
    · unfold fetched
      rw [show Step.reading? w ref (.act target action) = none from if_neg own]
      cases kind : action.reading? with
      | none => exact h.of_keeps leads (action.perform_keeps d w target kind)
      | some reading =>
        obtain ⟨b, put⟩ := Action.perform_reading_store d w target kind
        have size : (Step.perform d w (.act target action)).store.size = w.store.size := by
          rw [Step.perform, put, Store.size_set]
        refine ⟨leads, fun known => ?_, fun unknown => h.absent (size ▸ unknown)⟩
        rw [size] at known
        have ne : ref ≠ target := fun eq => own ⟨eq.symm, known⟩
        rw [Step.perform, put, Store.get_set_of_ne w.store b ne]
        exact h.present known

theorem Tracks.run (well : server.RepliesWell) (h : Tracks server ref w last) (d : Dialect)
    (steps : List Step) : Tracks server ref (w.run d steps) (lastFetch d ref w steps last) := by
  induction steps generalizing w last with
  | nil => exact h
  | cons step rest ih => exact ih (h.step well d step)

/-- At any point of a run, all that a builder remembers is from the last fetch that was answered for
it, and any reading goes by whether it is on the page of that fetch. This goes for a builder that
had no result when the run began and for one that the run has added. -/
theorem run_faithful (d : Dialect) (w : Workspace) (ref : Ref) (steps : List Step)
    (leads : w.line.LeadsTo server) (well : server.RepliesWell)
    (unread : ref.index < w.store.size → (w.store.get ref).cache = none) :
    let now := w.run d steps
    let last := lastFetch d ref w steps none
    ref.index < now.store.size → (now.store.get ref).Remembers last ∧ ∀ reading : Reading,
      reading.Faithful d now ref last (reading.action.perform d now ref).1
        (reading.action.perform d now ref).2 := by
  intro now last known
  have start : Tracks server ref w none := ⟨leads, unread, fun _ => rfl⟩
  have tracks := start.run well d steps
  have remembers := tracks.present known
  exact ⟨remembers, faithful tracks.leads well known remembers⟩

def numberedReply (n : Nat) : Entries :=
  [("took", .int n), ("hits", .map [("hits", .list [.map [("_id", .int n)]])])]

def numbered : Server := fun earlier _ => .value (.map (numberedReply earlier.length))

theorem numbered_repliesWell : numbered.RepliesWell := by
  intro earlier call reply _ read
  cases read
  intro hits found
  cases found
  refine ⟨_, rfl, fun batch listed => ?_⟩
  cases listed
  refine ⟨_, rfl, fun hit mem => ?_⟩
  obtain rfl := List.mem_singleton.mp mem
  refine ⟨_, rfl, fun source given => ?_, fun inner given => ?_⟩
  · cases given
  · cases given

def posts : Workspace :=
  ⟨⟨[{ Builder.blank "id" with index := "posts" }]⟩, some (.opened .standard numbered)⟩

/-- A page is turned and read, then a copy is read and a cursor takes a step. -/
def turning : List Step :=
  [.act ⟨0⟩ (.read .null), .act ⟨0⟩ .clone, .act ⟨0⟩ (.fluent (.edit (.offset (.int 5)))),
    .act ⟨0⟩ .rawReply, .act ⟨1⟩ .aggregationResults, .next (.fresh ⟨0⟩)]

/-- What is read on the page that was turned to is of the second search out of four. -/
theorem run_faithful_turned :
    let now := posts.run .standard turning
    (now.store.get ⟨0⟩).Recalls ⟨5, none, false, numberedReply 1⟩ ∧
      (exchanged posts now).length = 4 ∧
      (Action.duration.perform .standard now ⟨0⟩).1 = .ok (.value (.int 1)) ∧
      (Action.duration.perform .standard now ⟨0⟩).2.line = now.line := by
  intro now
  have last : lastFetch .standard ⟨0⟩ posts turning none = some ⟨5, none, false, numberedReply 1⟩ :=
    rfl
  obtain ⟨remembers, faithful⟩ := run_faithful .standard posts ⟨0⟩ turning (.some rfl)
    numbered_repliesWell (fun _ => rfl) (by decide)
  rw [last] at remembers
  have onPage : Fetch.For ⟨5, none, false, numberedReply 1⟩ (now.store.get ⟨0⟩) := ⟨rfl, trivial⟩
  obtain ⟨line, -, documents, -, shown⟩ := (faithful .took).kept _ _ rfl last onPage
  exact ⟨remembers, rfl, shown, line⟩

end Workspace

end DocumentSearch
