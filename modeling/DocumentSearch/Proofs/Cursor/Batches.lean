import DocumentSearch.Proofs.Cursor.Produce

/-!
# The hits of a context

A server answers the first search and then each request for more with a batch of hits. A cursor
gives the hits of the batches in order, from where its window begins to where it ends, whatever the
sizes of the batches, and asks for no batch that it does not need.
-/
namespace DocumentSearch

open Connection

/-- The id of the context in a reply, and its hits. -/
abbrev Batch := Value × List Value

namespace Batch

def Carried (b : Batch) (answer : Answer) : Prop :=
  ∃ v reply, answer = .value v ∧ v.reply = .ok reply ∧
    reply.get "_scroll_id" .null = .ok b.1 ∧ reply.batch = .ok (.list b.2)

def untilEmpty (batches : List Batch) : List Value :=
  (batches.takeWhile (fun b => !b.2.isEmpty)).flatMap Prod.snd

/-- How many further batches it takes until there are as many hits as a limit allows, or no more. -/
def needed (limit : Option Nat) : Nat → List Batch → Nat
  | _, [] => 0
  | read, b :: rest =>
    if limit.any (· ≤ read) then 0
    else if b.2.isEmpty then 1
    else needed limit (read + b.2.length) rest + 1

/-- Batches after which a reader that has some hits needs no other. -/
def Enough (limit : Option Nat) (read : Nat) (batches : List Batch) : Prop :=
  (∃ b ∈ batches, b.2 = []) ∨ ∃ n, limit = some n ∧ n ≤ read + (untilEmpty batches).length

/-- The hits that a limit still allows after some are read. -/
def cut (limit : Option Nat) (read : Nat) (hits : List Value) : List Value :=
  match limit with
  | some n => hits.take (n - read)
  | none => hits

@[simp] theorem cut_nil (limit : Option Nat) (read : Nat) : cut limit read [] = [] := by
  cases limit <;> simp [cut]

theorem cut_of_reached {limit : Option Nat} {read : Nat} (full : limit.any (· ≤ read) = true)
    (hits : List Value) : cut limit read hits = [] := by
  obtain ⟨n, rfl, reached⟩ := (Option.any_eq_true _ _).mp full
  have none : n - read = 0 := by simpa [Nat.sub_eq_zero_iff_le] using reached
  simp [cut, none]

theorem cut_cons {limit : Option Nat} {read : Nat} (more : ¬limit.any (· ≤ read) = true)
    (hit : Value) (hits : List Value) :
    cut limit read (hit :: hits) = hit :: cut limit (read + 1) hits := by
  cases limit with
  | none => rfl
  | some n =>
    have left : n - read = (n - (read + 1)) + 1 := by
      simp at more
      omega
    simp [cut, left]

theorem needed_of_reached {limit : Option Nat} {read : Nat} (full : limit.any (· ≤ read) = true)
    (batches : List Batch) : needed limit read batches = 0 := by
  cases batches with
  | nil => rfl
  | cons b rest => simp [needed, full]

theorem untilEmpty_cons {b : Batch} (filled : b.2 ≠ []) (rest : List Batch) :
    untilEmpty (b :: rest) = b.2 ++ untilEmpty rest := by
  simp [untilEmpty, filled]

theorem untilEmpty_of_empty {b : Batch} (empty : b.2 = []) (rest : List Batch) :
    untilEmpty (b :: rest) = [] := by
  simp [untilEmpty, empty]

theorem needed_cons {limit : Option Nat} {read : Nat} {b : Batch} (filled : b.2 ≠ [])
    (more : ¬limit.any (· ≤ read) = true) (rest : List Batch) :
    needed limit read (b :: rest) = needed limit (read + b.2.length) rest + 1 := by
  simp [needed, more, filled]

/-- A further batch is asked for only while every batch has had hits and the limit is not reached. -/
theorem of_lt_needed {limit : Option Nat} {read : Nat} {batches : List Batch} {j : Nat}
    (h : j < needed limit read batches) :
    (∀ b ∈ batches.take j, b.2 ≠ []) ∧
      ∀ n, limit = some n → read + ((batches.take j).flatMap Prod.snd).length < n := by
  induction batches generalizing read j with
  | nil => simp [needed] at h
  | cons b rest ih =>
    by_cases full : limit.any (· ≤ read) = true
    · simp [needed_of_reached full] at h
    · have more : ∀ n, limit = some n → read < n := by
        rintro n rfl
        simpa using full
      by_cases empty : b.2 = []
      · obtain rfl : j = 0 := by simpa [needed, full, empty] using h
        simpa using more
      · cases j with
        | zero => simpa using more
        | succ j =>
          rw [needed_cons empty full, Nat.add_lt_add_iff_right] at h
          obtain ⟨filled, below⟩ := ih h
          rw [List.take_succ_cons]
          refine ⟨List.forall_mem_cons.mpr ⟨empty, filled⟩, fun n bound => ?_⟩
          have := below n bound
          rw [List.flatMap_cons, List.length_append]
          omega

theorem Enough.rest {limit : Option Nat} {read : Nat} {b : Batch} {rest : List Batch}
    (h : Enough limit read (b :: rest)) (filled : b.2 ≠ []) :
    Enough limit (read + b.2.length) rest := by
  rcases h with ⟨other, hb, empty⟩ | ⟨n, bound, reached⟩
  · rcases List.mem_cons.mp hb with rfl | later
    · exact absurd empty filled
    · exact .inl ⟨other, later, empty⟩
  · refine .inr ⟨n, bound, ?_⟩
    rw [untilEmpty_cons filled, List.length_append] at reached
    omega

end Batch

open Batch

/-- The next requests for more hits are answered by these batches, and no release by a failure
that is no refusal. -/
def Connection.Serves (c : Connection) (batches : List Batch) : Prop :=
  ∀ later call,
    (call.method = "scroll" → ∀ b, batches[later.countP (·.method = "scroll")]? = some b →
      b.Carried (c.client.server (c.client.calls ++ later) call)) ∧
    (call.method = "clear_scroll" → ∀ e, c.client.server (c.client.calls ++ later) call ≠ .broken e)

namespace Connection.Serves

variable {c : Connection} {batches : List Batch}

theorem chosen_countP (c : Connection) : c.chosen.countP (·.method = "scroll") = 0 := by
  unfold chosen
  split <;> simp

theorem sent_other (h : c.Serves batches) {call : Call} (other : call.method ≠ "scroll") :
    (c.sent call).Serves batches := by
  intro later next
  have := h (c.chosen ++ call :: later) next
  simpa [Connection.sent, Client.send, Client.note, calls_timedClient, List.countP_cons, other,
    chosen_countP] using this

theorem sent_scroll {b : Batch} (h : c.Serves (b :: batches)) {call : Call}
    (scroll : call.method = "scroll") : (c.sent call).Serves batches := by
  intro later next
  have := h (c.chosen ++ call :: later) next
  simpa [Connection.sent, Client.send, Client.note, calls_timedClient, List.countP_cons, scroll,
    chosen_countP] using this

theorem of_client {d : Connection} (h : c.Serves batches) (same : d.client = c.client) :
    d.Serves batches := by
  unfold Serves
  rw [same]
  exact h

theorem client_ran (c : Connection) (call : Call) (query bindings : Value) :
    (c.ran call query bindings).client = (c.sent call).client := by
  unfold Connection.ran
  split
  · exact client_logged _ _ _
  · rfl

theorem answer_scroll {b : Batch} (h : c.Serves (b :: batches)) {call : Call}
    (scroll : call.method = "scroll") : b.Carried (c.answer call) := by
  have := (h c.chosen call).1 scroll b
  simpa [answer, calls_timedClient, chosen_countP] using this

theorem clearScroll (h : c.Serves batches) (id : Value) :
    c.clearScroll id = (.ok (), c.sent (.release id)) := by
  have answered := (h c.chosen (.release id)).2 rfl
  have same : c.client.server (c.client.calls ++ c.chosen) (.release id) =
      c.answer (.release id) := by
    rw [answer, calls_timedClient]
  rw [same] at answered
  rw [clearScroll_eq]
  split
  · rename_i e broken
    exact absurd broken (answered e)
  · rfl

end Connection.Serves

namespace Scroll

theorem reached_eq (limit : Option Nat) (count : Nat) :
    reached (limit.map Int.ofNat) count = limit.any (· ≤ count) := by
  cases limit <;> simp [reached]

variable {c : Connection} {batches : List Batch} {limit : Option Nat}

theorem release_eq (serves : c.Serves batches) (id : Value) (given : Pull) :
    release c id given = (given, finished, c.sent (.release id)) := by
  rw [release, serves.clearScroll]

/-- A scroll gives the hits up to its limit, asks for the batches that it needs, and releases its
context. -/
def Finishes (limit : Option Nat) (batches : List Batch) (s : Scroll) (c : Connection)
    (count : Nat) (pending : List Value) : Prop :=
  ∃ d more, Produces Scroll.next s c (cut limit count (pending ++ untilEmpty batches)) finished d ∧
    Follows c d more ∧
    more.map (·.1.method) =
      List.replicate (needed limit (count + pending.length) batches) "scroll" ++ ["clear_scroll"]

theorem finishes_of_reached (serves : c.Serves batches) {count : Nat}
    (full : limit.any (· ≤ count) = true) (id timeout : Value) (pending : List Value) :
    Finishes limit batches (reading id timeout (limit.map Int.ofNat) count pending) c count
      pending := by
  have later : limit.any (· ≤ count + pending.length) = true := by
    obtain ⟨n, rfl, reached⟩ := (Option.any_eq_true _ _).mp full
    simp only [decide_eq_true_eq] at reached
    simp
    omega
  refine ⟨_, _, ?_, (Follows.refl c).sent (.release id) (by simp), ?_⟩
  · rw [cut_of_reached full]
    refine .ends ?_
    rw [next, advance_of_reached (by rw [reached_eq, full]), release_eq serves]
  · simp [needed_of_reached later]

/-- What holds for a scroll that has used up its batch holds for one in the midst of it. -/
theorem finishes_of_pending {timeout : Value}
    (step : ∀ id c count, c.Serves batches → Enough limit count batches →
      Finishes limit batches (reading id timeout (limit.map Int.ofNat) count []) c count [])
    (pending : List Value) (id : Value) {c : Connection} (count : Nat) (serves : c.Serves batches)
    (enough : Enough limit (count + pending.length) batches) :
    Finishes limit batches (reading id timeout (limit.map Int.ofNat) count pending) c count
      pending := by
  induction pending generalizing count with
  | nil => exact step id c count serves enough
  | cons hit rest ih =>
    by_cases full : limit.any (· ≤ count) = true
    · exact finishes_of_reached serves full id timeout (hit :: rest)
    · have same : count + (hit :: rest).length = count + 1 + rest.length := by
        rw [List.length_cons]
        omega
      rw [same] at enough
      obtain ⟨d, more, produces, follows, methods⟩ := ih (count + 1) enough
      refine ⟨d, more, ?_, follows, by rw [same, methods]⟩
      rw [List.cons_append, cut_cons full]
      refine .gives ?_ produces
      rw [next, advance_cons (by rw [reached_eq]; exact full)]

theorem fetch_eq {b : Batch} (serves : c.Serves (b :: batches)) (id timeout : Value)
    (limit : Option Int) (count : Nat) :
    ∃ d, d.Serves batches ∧ Follows c d [(.scroll id timeout, c.answer (.scroll id timeout))] ∧
      fetch c id timeout limit count =
        match b.2 with
        | [] => release d (b.1.orElse id) (.ok none)
        | hit :: rest => (.ok (some hit), reading (b.1.orElse id) timeout limit (count + 1) rest, d)
      := by
  obtain ⟨v, reply, answered, read, named, given⟩ :=
    serves.answer_scroll (rfl : (Call.scroll id timeout).method = "scroll")
  refine ⟨c.ran (.scroll id timeout) (.map [("scroll_id", id), ("scroll", timeout)]) .null, ?_,
    (Follows.refl c).ran _ (by simp) _ _, ?_⟩
  · exact (serves.sent_scroll rfl).of_client (Connection.Serves.client_ran _ _ _ _)
  · have hits : readReply id reply = (b.1.orElse id, .ok b.2) := by
      rw [readReply, named, readReply.batch, given]
      by_cases some : b.2 = []
      · simp [some, Value.truthy, bind, Except.bind, pure, Except.pure]
      · simp [some, Value.truthy, Value.items, Value.items?, bind, Except.bind]
    rw [fetch, run_eq c "scroll" .null (by rfl), answered]
    simp only [outcome, read, hits]
    cases b.2 <;> rfl

/-- Wherever a scroll is, it finishes if the batches suffice. -/
theorem finishes_reading (timeout : Value) (pending : List Value) (id : Value) {c : Connection}
    (count : Nat) (serves : c.Serves batches)
    (enough : Enough limit (count + pending.length) batches) :
    Finishes limit batches (reading id timeout (limit.map Int.ofNat) count pending) c count
      pending := by
  induction batches generalizing pending id c count with
  | nil =>
    refine finishes_of_pending (fun id c count serves enough => ?_) pending id count serves enough
    refine finishes_of_reached serves ?_ id timeout []
    rcases enough with ⟨b, hb, -⟩ | ⟨n, rfl, reached⟩
    · simp at hb
    · simpa [untilEmpty] using reached
  | cons b rest ih =>
    refine finishes_of_pending (fun id c count serves enough => ?_) pending id count serves enough
    by_cases full : limit.any (· ≤ count) = true
    · exact finishes_of_reached serves full id timeout []
    · obtain ⟨d, still, follows, fetched⟩ := fetch_eq serves id timeout (limit.map Int.ofNat) count
      have stepped : next (reading id timeout (limit.map Int.ofNat) count []) c =
          fetch c id timeout (limit.map Int.ofNat) count := by
        rw [next, advance_nil (by rw [reached_eq]; exact full)]
      cases given : b.2 with
      | nil =>
        rw [given, release_eq still] at fetched
        refine ⟨_, _, ?_, follows.trans ((Follows.refl d).sent (.release (b.1.orElse id)) (by simp)),
          ?_⟩
        · rw [untilEmpty_of_empty given, List.append_nil, cut_nil]
          exact .ends (stepped.trans fetched)
        · simp [needed, full, given]
      | cons hit hits =>
        rw [given] at fetched
        have filled : b.2 ≠ [] := by simp [given]
        have same : count + b.2.length = count + 1 + hits.length := by
          rw [given, List.length_cons]
          omega
        have enough := enough.rest filled
        rw [same] at enough
        obtain ⟨e, more, produces, onwards, methods⟩ :=
          ih hits (b.1.orElse id) (count + 1) still enough
        refine ⟨e, _, ?_, follows.trans onwards, ?_⟩
        · rw [untilEmpty_cons filled, given, List.nil_append, List.cons_append, cut_cons full]
          exact .gives (stepped.trans fetched) produces
        · rw [List.length_nil, Nat.add_zero, needed_cons filled full, same, List.map_append, methods,
            List.replicate_succ]
          rfl

end Scroll

end DocumentSearch
