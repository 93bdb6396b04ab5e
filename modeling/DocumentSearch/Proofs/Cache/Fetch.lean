import DocumentSearch.Execution.Read
import DocumentSearch.Proofs.Cache.Memory
import DocumentSearch.Proofs.Cache.Reply
import DocumentSearch.Proofs.Cache.Served
import DocumentSearch.Proofs.Execution.Index

/-!
# Fetches

A fetch belongs to a page, and its documents can be used again wherever the page is the same. It
sends one search, or none if the request cannot be written, and it changes what the builder
remembers only if there is a reply.
-/
namespace DocumentSearch

open Connection Outcome

/-- Limits that are both missing or the same number. -/
def SameLimit : Option Number → Option Number → Prop
  | none, none => True
  | some m, some n => m.same n = true
  | _, _ => False

namespace SameLimit

variable {a b c : Option Number}

theorem refl (a : Option Number) : SameLimit a a := by
  cases a with
  | none => trivial
  | some m => exact m.same_refl

theorem symm (h : SameLimit a b) : SameLimit b a := by
  cases a <;> cases b <;> first | exact h | exact Number.same_symm h

theorem trans (h : SameLimit a b) (k : SameLimit b c) : SameLimit a c := by
  cases a with
  | none =>
    cases b with
    | none => exact k
    | some y => cases h
  | some x =>
    cases b with
    | none => cases h
    | some y =>
      cases c with
      | none => cases k
      | some z => exact Number.same_trans h k

end SameLimit

/-- A fetch that came to a reply: the page it was for, how its hits were read, and the reply. -/
structure Fetch where
  offset : Nat
  limit : Option Number
  expandInnerHits : Bool
  reply : Entries

namespace Fetch

def of (b : Builder) (reply : Entries) : Fetch := ⟨b.offset, b.limit, b.expandInnerHits, reply⟩

def documents (f : Fetch) : Except Misuse (List Value) :=
  Reply.documents f.expandInnerHits f.reply

def For (f : Fetch) (b : Builder) : Prop := f.offset = b.offset ∧ SameLimit f.limit b.limit

end Fetch

namespace Builder

variable {b b' : Builder} {f : Fetch}

theorem samePage_iff {kept : Cached} :
    samePage kept b = true ↔ kept.offset = b.offset ∧ SameLimit kept.limit b.limit := by
  unfold samePage
  rw [Bool.and_eq_true, decide_eq_true_eq]
  cases kept.limit <;> cases b.limit <;> simp [SameLimit]

/-- All that a builder has of a result comes from one fetch, and it is kept for the page of that
fetch. -/
structure Recalls (b : Builder) (f : Fetch) : Prop where
  cached : ∃ kept, b.cache = some kept ∧ f.documents = .ok kept.documents ∧
    kept.offset = f.offset ∧ SameLimit kept.limit f.limit
  summary : b.summary = .ofReply f.reply

/-- What a builder remembers after its last fetch, or without any. -/
def Remembers (b : Builder) : Option Fetch → Prop
  | some f => b.Recalls f
  | none => b.cache = none

theorem Recalls.congr (h : b.Recalls f) (same : b'.memory = b.memory) : b'.Recalls f := by
  obtain ⟨cache, summary⟩ := Prod.mk.inj same
  exact ⟨cache ▸ h.cached, summary.trans h.summary⟩

theorem Remembers.congr {last : Option Fetch} (h : b.Remembers last)
    (same : b'.memory = b.memory) : b'.Remembers last := by
  cases last with
  | none => exact (Prod.mk.inj same).1.trans h
  | some f => exact Recalls.congr h same

theorem kept?_of_for (h : b.Recalls f) (onPage : f.For b) :
    ∃ documents, f.documents = .ok documents ∧ b.kept? = some documents := by
  obtain ⟨kept, cached, read, offset, limit⟩ := h.cached
  refine ⟨kept.documents, read, ?_⟩
  have page : samePage kept b = true :=
    samePage_iff.mpr ⟨offset.trans onPage.1, limit.trans onPage.2⟩
  rw [kept?, cached]
  exact if_pos page

theorem kept?_of_not_for (h : b.Recalls f) (turned : ¬f.For b) : b.kept? = none := by
  obtain ⟨kept, cached, -, offset, limit⟩ := h.cached
  have page : ¬samePage kept b = true := fun page => by
    obtain ⟨offset', limit'⟩ := samePage_iff.mp page
    exact turned ⟨offset.symm.trans offset', limit.symm.trans limit'⟩
  rw [kept?, cached]
  exact if_neg page

theorem Remembers.kept?_eq_none {last : Option Fetch} (h : b.Remembers last)
    (turned : ∀ f, last = some f → ¬f.For b) : b.kept? = none := by
  cases last with
  | none =>
    have uncached : b.cache = none := h
    rw [kept?, uncached]
  | some f => exact kept?_of_not_for h (turned f rfl)

/-- Documents that are kept are used again without asking, and stay kept. -/
theorem results_of_for (d : Dialect) (store : Store) (line : Line) (h : b.Recalls f)
    (onPage : f.For b) :
    ∃ documents, f.documents = .ok documents ∧
      b.results d store line = (.ok documents, b.keep documents, line) ∧
      (b.keep documents).Recalls f := by
  obtain ⟨documents, read, kept⟩ := kept?_of_for h onPage
  refine ⟨documents, read, by rw [results, kept], ?_⟩
  exact ⟨⟨_, rfl, read, onPage.1.symm, onPage.2.symm⟩, h.summary⟩

theorem recalls_keep {documents : List Value} {reply : Entries}
    (read : (Fetch.of b reply).documents = .ok documents) :
    ({ b with summary := .ofReply reply }.keep documents).Recalls (.of b reply) :=
  ⟨⟨_, rfl, read, rfl, .refl _⟩, rfl⟩

end Builder

abbrev Call.search (request : Dialect.SearchRequest) : Call := ⟨"search", request.toEntries⟩

theorem Reply.outcome_of_unread {answer : Answer} (unread : answer.table? = none) (query : Value)
    (expandInnerHits : Bool) (earlier : Summary) :
    ∃ e, outcome query .null answer = .error e ∨ ∃ response,
      outcome query .null answer = .ok response ∧
        Reply.process expandInnerHits response earlier = (.error e, earlier) := by
  cases answer with
  | refused e => exact ⟨_, .inl rfl⟩
  | broken e => exact ⟨_, .inl rfl⟩
  | value v =>
    cases replied : v.reply with
    | error e => exact ⟨e, .inl replied⟩
    | ok response =>
      have unfit : ∀ reply, response.reply ≠ .ok (.map reply) := fun reply table => by
        simp [Answer.table?, replied, table, bind, Except.bind] at unread
      obtain ⟨e, processed⟩ := Reply.process_of_unread expandInnerHits earlier unfit
      exact ⟨e, .inr ⟨response, replied, processed⟩⟩

theorem Reply.outcome_of_read {answer : Answer} {reply : Entries}
    (read : answer.table? = some reply) (query : Value) (expandInnerHits : Bool)
    (earlier : Summary) :
    ∃ response, outcome query .null answer = .ok response ∧
      Reply.process expandInnerHits response earlier =
        (Misuse.lift (Reply.documents expandInnerHits reply), .ofReply reply) := by
  cases answer with
  | refused | broken => cases read
  | value v =>
    unfold Answer.table? at read
    dsimp only at read
    split at read
    · rename_i table found
      cases read
      obtain ⟨response, replied, table⟩ := bind_eq_ok.mp found
      exact ⟨response, replied, Reply.process_of_read expandInnerHits earlier table⟩
    · cases read

/-- How a fetch for a builder can go. Without a connection nothing is written; what cannot be
written is not sent; and what is written is sent once, as a search. -/
inductive Builder.Fetches (d : Dialect) (store : Store) (b : Builder) :
    Line → Except Error Entries → Line → Prop
  | unbound : Fetches d store b none (.error .unbound) none
  | unwritten {c : Connection} {e : Error} (refused : d.searchRequest store b = .error e) :
    Fetches d store b (some c) (.error e) (some c)
  | unread {c c' : Connection} {request : Dialect.SearchRequest} {e : Error}
    (written : d.searchRequest store b = .ok request)
    (sent : Follows c c' [(.search request, c.answer (.search request))])
    (unread : (c.answer (.search request)).table? = none) :
    Fetches d store b (some c) (.error e) (some c')
  | replied {c c' : Connection} {request : Dialect.SearchRequest} {reply : Entries}
    (written : d.searchRequest store b = .ok request)
    (sent : Follows c c' [(.search request, c.answer (.search request))])
    (read : (c.answer (.search request)).table? = some reply) :
    Fetches d store b (some c) (.ok reply) (some c')

namespace Builder

variable {server : Server} {line : Line} {c : Connection} {request : Dialect.SearchRequest}

theorem select_search (c : Connection) (request : Dialect.SearchRequest) :
    c.select (.map request.toEntries) .null =
      (outcome (.map request.toEntries) .null (c.answer (.search request)),
        c.ran (.search request) (.map request.toEntries) .null) :=
  c.run_eq "search" .null rfl

theorem fetch_of_read {d : Dialect} {store : Store} {b : Builder} {reply : Entries}
    {documents : List Value} (written : d.searchRequest store b = .ok request)
    (read : (c.answer (.search request)).table? = some reply)
    (done : (Fetch.of b reply).documents = .ok documents) :
    b.fetch d store (some c) =
      (.ok documents, { b with summary := .ofReply reply }.keep documents,
        some (c.ran (.search request) (.map request.toEntries) .null)) := by
  obtain ⟨response, answered, processed⟩ := Reply.outcome_of_read read
    (.map request.toEntries) b.expandInnerHits b.summary
  have done : Reply.documents b.expandInnerHits reply = .ok documents := done
  rw [done] at processed
  simp only [fetch, written, select_search, answered, processed]
  rfl

/-- A fetch without a reply leaves the builder as it was. A reply gives its documents to it, and
itself as what there is to say of them. -/
theorem fetch_spec (d : Dialect) (store : Store) (b : Builder) (leads : line.LeadsTo server)
    (well : server.RepliesWell) :
    ∃ outcome line', b.Fetches d store line outcome line' ∧
      match outcome with
      | .error e => b.fetch d store line = (.error e, b, line')
      | .ok reply => ∃ documents, (Fetch.of b reply).documents = .ok documents ∧
          b.fetch d store line =
            (.ok documents, { b with summary := .ofReply reply }.keep documents, line') := by
  cases line with
  | none => exact ⟨_, _, .unbound, rfl⟩
  | some c =>
    cases written : d.searchRequest store b with
    | error e =>
      refine ⟨.error e, some c, .unwritten written, ?_⟩
      simp only [fetch, written]
    | ok request =>
      have sent := (Follows.refl c).ran (.search request) (by simp) (.map request.toEntries) .null
      cases read : (c.answer (.search request)).table? with
      | none =>
        obtain ⟨e, unread⟩ := Reply.outcome_of_unread read (.map request.toEntries)
          b.expandInnerHits b.summary
        refine ⟨.error e, _, .unread written sent read, ?_⟩
        rcases unread with failed | ⟨response, answered, processed⟩
        · simp only [fetch, written, select_search, failed]
        · simp only [fetch, written, select_search, answered, processed]
      | some reply =>
        have done := Reply.documents_eq b.expandInnerHits
          (well c.timedClient.calls (.search request) reply rfl
            (by rw [← leads.of_some]; exact read))
        exact ⟨.ok reply, _, .replied written sent read, _, done, fetch_of_read written read done⟩

end Builder

end DocumentSearch
