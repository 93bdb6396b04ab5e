import DocumentSearch.Proofs.Cursor.Batches

/-!
# The hits of a window

A cursor skips the first hits of its context and ends where its window does, however the hits are
spread over batches.
-/
namespace DocumentSearch

open Connection Batch Outcome

/-- A body that asks for the hits behind some others, at most as many as its size says. -/
structure Paged (body : Entries) (skip : Nat) (size : Option Nat) : Prop where
  skipped : body.find? "from" = some (.int skip) ∨ body.find? "from" = none ∧ skip = 0
  sized : match size with
    | some n => 1 ≤ n ∧ body.find? "size" = some (.int n)
    | none => body.find? "size" = none

theorem Scroll.limitOf_int {limit : Nat} (positive : 0 < limit) :
    limitOf (.int limit) = .ok (some (limit : Int)) := by
  have truthy : (Value.int limit).truthy = true := by
    simp [Value.truthy]
    omega
  rw [limitOf, truthy]
  change Except.ok (some ((limit : Int) : Rat).ceil) = Except.ok (some (limit : Int))
  rw [Rat.ceil_intCast]

namespace Window

/-- How many hits are asked for at once: no more than the window reaches to. -/
def atOnce (skip : Nat) (size : Option Nat) (scrollSize : Nat) : Nat :=
  match size with
  | some n => min (skip + n) scrollSize
  | none => scrollSize

def paged (skip : Nat) (size : Option Nat) (scrollSize : Nat) : Window :=
  ⟨.int skip, size.map (fun n => .int (skip + n : Nat)), .int (atOnce skip size scrollSize)⟩

theorem int_orElse_zero (i : Int) : (Value.int i).orElse (.int 0) = .int i := by
  by_cases zero : i = 0 <;> simp [Value.orElse, Value.truthy, zero]

theorem ofBody_paged {body : Entries} {skip : Nat} {size : Option Nat} (page : Paged body skip size)
    (scrollSize : Nat) :
    ofBody body (.int scrollSize) = .ok (paged skip size scrollSize) := by
  obtain ⟨skipped, sized⟩ := page
  have from' : (Value.under body "from").orElse (.int 0) = .int skip := by
    rcases skipped with given | ⟨missing, rfl⟩
    · rw [Value.under, given]
      exact int_orElse_zero skip
    · rw [Value.under, missing]
      rfl
  cases size with
  | none =>
    have size' : (Value.under body "size").orElse (.int 0) = .int 0 := by
      rw [Value.under, sized]
      rfl
    rw [ofBody, from', size']
    rfl
  | some n =>
    obtain ⟨positive, given⟩ := sized
    have size' : (Value.under body "size").orElse (.int 0) = .int n := by
      rw [Value.under, given]
      exact int_orElse_zero n
    have truthy : (Value.int n).truthy = true := by
      simp [Value.truthy]
      omega
    have filled : ¬((skip : Int) + n = 0) := by omega
    rw [ofBody, from', size', truthy]
    simp only [if_true, Value.number, Value.number?, bind, Except.bind, Number.add_int,
      Number.isZero, Number.eq_int, decide_eq_true_eq, filled, if_false, pure, Except.pure,
      Number.min_int, Value.ofNumber, paged, Option.map]
    have least : min ((skip : Int) + n) scrollSize = (min (skip + n) scrollSize : Nat) := by omega
    rw [least]
    rfl

theorem skipOf_int (skip : Nat) : skipOf (.int skip) = .ok skip := by
  change Except.ok ((skip : Int) : Rat).floor.toNat = Except.ok skip
  rw [Rat.floor_intCast, Int.toNat_natCast]

theorem reached_paged (skip : Nat) (size : Option Nat) (scrollSize consumed : Nat) :
    (paged skip size scrollSize).reached consumed = (size.map (skip + ·)).any (· ≤ consumed) := by
  cases size with
  | none => rfl
  | some n =>
    rw [Bool.eq_iff_iff]
    simp [paged, reached, Number.le]
    omega

theorem onward_paged (skip : Nat) (size : Option Nat) (scrollSize : Nat) {consumed : Nat}
    (more : ¬(size.map (skip + ·)).any (· ≤ consumed) = true) :
    ∃ remaining, Cursor.onward (paged skip size scrollSize) consumed = .ok (skip, remaining) ∧
      Scroll.limitOf remaining =
        .ok (((size.map (skip + ·)).map (· - consumed)).map Int.ofNat) := by
  cases size with
  | none => exact ⟨.int 0, by simp [Cursor.onward, paged, skipOf_int, remaining, bind, Except.bind,
      pure, Except.pure], rfl⟩
  | some n =>
    have left : consumed < skip + n := by simpa using more
    refine ⟨.int (skip + n - consumed : Nat), ?_, ?_⟩
    · have whole : ((skip + n : Nat) : Int) - consumed = (skip + n - consumed : Nat) := by omega
      simp only [Cursor.onward, paged, skipOf_int, remaining, Option.map, Number.sub_int, bind,
        Except.bind, pure, Except.pure, Value.ofNumber, whole]
    · exact Scroll.limitOf_int (by omega)

end Window

namespace Batch

/-- A limit may be counted from where some hits were read. -/
theorem needed_shift (limit : Option Nat) (consumed read : Nat) (batches : List Batch) :
    needed (limit.map (· - consumed)) read batches = needed limit (read + consumed) batches := by
  have same : ∀ read, (limit.map (· - consumed)).any (· ≤ read) = limit.any (· ≤ read + consumed) :=
    by cases limit <;> simp
  induction batches generalizing read with
  | nil => rfl
  | cons b rest ih =>
    have next : read + b.2.length + consumed = read + consumed + b.2.length := by omega
    simp only [needed, same, ih, next]

theorem cut_shift (limit : Option Nat) (consumed : Nat) (hits : List Value) :
    cut (limit.map (· - consumed)) 0 hits = cut limit consumed hits := by
  cases limit <;> simp [cut]

theorem Enough.shift {limit : Option Nat} {consumed : Nat} {batches : List Batch}
    (h : Enough limit consumed batches) : Enough (limit.map (· - consumed)) 0 batches := by
  rcases h with empty | ⟨n, rfl, reached⟩
  · exact .inl empty
  · exact .inr ⟨n - consumed, rfl, by omega⟩

end Batch

namespace Batch

/-- The hits of a context: those up to the first empty batch, or only those of the first reply if
it has no id. -/
def contextHits (first : Batch) (batches : List Batch) : List Value :=
  if first.1.truthy then untilEmpty (first :: batches) else first.2

/-- The hits behind some others, at most as many as a size says. -/
def windowed (skip : Nat) (size : Option Nat) (hits : List Value) : List Value :=
  match size with
  | some n => (hits.drop skip).take n
  | none => hits.drop skip

theorem drop_cut (skip : Nat) (size : Option Nat) (hits : List Value) :
    (cut (size.map (skip + ·)) 0 hits).drop skip = windowed skip size hits := by
  cases size with
  | none => rfl
  | some n => simp [cut, windowed, List.drop_take]

end Batch

namespace Cursor

variable {c : Connection} {batches : List Batch} {id : Value}

def methods (id : Value) (further : Nat) : List String :=
  List.replicate further "scroll" ++ if id.truthy then ["clear_scroll"] else []

/-- What a cursor goes on to read behind the first batch. -/
def beyond (id : Value) (hadHits : Bool) (batches : List Batch) : List Batch :=
  if hadHits && id.truthy then batches else []

/-- A cursor gives these hits up to its end, with requests by these methods. -/
def Gives (s : Cursor) (c : Connection) (hits : List Value) (methods : List String) : Prop :=
  ∃ d more, Produces Cursor.next s c hits finished d ∧ Follows c d more ∧
    more.map (·.1.method) = methods

theorem gives_of_release (serves : c.Serves batches) {s : Cursor}
    (released : s.next c = release c id (.ok none)) : Gives s c [] (methods id 0) := by
  unfold release at released
  split at released
  · rename_i truthy
    rw [serves.clearScroll] at released
    refine ⟨_, _, .ends released, (Follows.refl c).sent (.release id) (by simp), ?_⟩
    simp [methods, truthy]
  · rename_i falsy
    exact ⟨_, _, .ends released, .refl c, by simp [methods, falsy]⟩

/-- Behind the first batch a cursor gives what is left of the window in the further ones. -/
theorem gives_afterFirst {skip : Nat} {size : Option Nat} {hadHits : Bool} {consumed : Nat}
    (scrollSize : Nat) (serves : c.Serves batches)
    (enough : (hadHits && id.truthy) = true → Enough (size.map (skip + ·)) consumed batches) :
    Gives (first id (.paged skip size scrollSize) hadHits consumed []) c
      ((cut (size.map (skip + ·)) consumed (untilEmpty (beyond id hadHits batches))).drop
        (skip - consumed))
      (methods id (needed (size.map (skip + ·)) consumed (beyond id hadHits batches))) := by
  have step : (first id (.paged skip size scrollSize) hadHits consumed []).next c =
      afterFirst id (.paged skip size scrollSize) hadHits consumed c := rfl
  by_cases full : (size.map (skip + ·)).any (· ≤ consumed) = true
  · rw [cut_of_reached full, List.drop_nil, needed_of_reached full]
    refine gives_of_release serves (step.trans ?_)
    simp [afterFirst, Window.reached_paged, full]
  · by_cases goes : (hadHits && id.truthy) = true
    · obtain ⟨remaining, onwards, limited⟩ := Window.onward_paged skip size scrollSize full
      obtain ⟨d, more, produces, follows, same⟩ := Scroll.finishes_reading
        (c.config.scrollTimeout.orElse c.config.scrollTimeout) [] id 0 serves
        (Enough.shift (enough goes))
      have fresh : (Scroll.fresh id c.config.scrollTimeout remaining).next c =
          (Scroll.reading id (c.config.scrollTimeout.orElse c.config.scrollTimeout)
            (((size.map (skip + ·)).map (· - consumed)).map Int.ofNat) 0 []).next c := by
        rw [Scroll.next, limited]
        rfl
      have further := produces_further (produces.congr fresh) skip consumed
      rw [List.nil_append, cut_shift] at further
      rw [List.length_nil, needed_shift, Nat.add_zero, Nat.zero_add] at same
      rw [beyond, if_pos goes]
      refine ⟨d, more, further.congr (step.trans ?_), follows, ?_⟩
      · have open' : hadHits = true ∧ id.truthy = true := by simpa using goes
        simp [afterFirst, Window.reached_paged, full, open', onwards, next]
      · have truthy : id.truthy = true := by simp_all
        rw [same, methods, if_pos truthy]
    · rw [beyond, if_neg goes]
      simp only [untilEmpty, List.takeWhile_nil, List.flatMap_nil, cut_nil, List.drop_nil, needed]
      refine gives_of_release serves (step.trans ?_)
      have ended : (!hadHits || (Window.paged skip size scrollSize).reached consumed ||
          !id.truthy) = true := by
        cases hadHits <;> cases truthy : id.truthy <;> simp_all
      rw [afterFirst, if_pos ended]

theorem gives_first {skip : Nat} {size : Option Nat} {hadHits : Bool} {consumed : Nat}
    (scrollSize : Nat) (serves : c.Serves batches) (pending : List Value)
    (enough : (hadHits && id.truthy) = true →
      Enough (size.map (skip + ·)) (consumed + pending.length) batches) :
    Gives (first id (.paged skip size scrollSize) hadHits consumed pending) c
      ((cut (size.map (skip + ·)) consumed
        (pending ++ untilEmpty (beyond id hadHits batches))).drop (skip - consumed))
      (methods id (needed (size.map (skip + ·)) (consumed + pending.length)
        (beyond id hadHits batches))) := by
  induction pending generalizing consumed with
  | nil => exact gives_afterFirst scrollSize serves enough
  | cons hit rest ih =>
    have step : (first id (.paged skip size scrollSize) hadHits consumed (hit :: rest)).next c =
        nextFirst id (.paged skip size scrollSize) hadHits c consumed (hit :: rest) := rfl
    have same : consumed + (hit :: rest).length = consumed + 1 + rest.length := by
      rw [List.length_cons]
      omega
    rw [same] at enough ⊢
    by_cases full : (size.map (skip + ·)).any (· ≤ consumed) = true
    · have later : (size.map (skip + ·)).any (· ≤ consumed + 1 + rest.length) = true := by
        cases size with
        | none => simp at full
        | some n =>
          simp at full ⊢
          omega
      rw [cut_of_reached full, List.drop_nil, needed_of_reached later]
      refine gives_of_release serves (step.trans ?_)
      simp [nextFirst, afterFirst, Window.reached_paged, full]
    · obtain ⟨d, more, produces, follows, methods⟩ := ih enough
      rw [List.cons_append, cut_cons full]
      rw [nextFirst, Window.reached_paged, if_neg full] at step
      simp only [Window.paged, Window.skipOf_int] at step
      refine ⟨d, more, ?_, follows, methods⟩
      by_cases behind : skip < consumed + 1
      · rw [if_pos behind] at step
        rw [show skip - (consumed + 1) = 0 by omega] at produces
        rw [show skip - consumed = 0 by omega]
        exact .gives step produces
      · rw [if_neg behind] at step
        rw [show skip - consumed = (skip - (consumed + 1)) + 1 by omega, List.drop_succ_cons]
        exact produces.congr step

theorem contextHits_eq (first : Batch) (batches : List Batch) :
    first.2 ++ untilEmpty (beyond first.1 (!first.2.isEmpty) batches) =
      contextHits first batches := by
  by_cases truthy : first.1.truthy = true
  · by_cases empty : first.2 = []
    · simp [contextHits, beyond, truthy, empty, untilEmpty]
    · simp [contextHits, beyond, truthy, empty, untilEmpty_cons empty]
  · simp [contextHits, beyond, truthy, untilEmpty]

theorem firstQuery_paged {query body : Entries} {index : Value} {skip : Nat} {size : Option Nat}
    (indexed : query.find? "index" = some index) (given : query.find? "body" = some (.map body))
    (page : Paged body skip size) (scrollSize : Nat) (timeout : Value) :
    firstQuery (.map query) (.int scrollSize) timeout =
      .ok (.paged skip size scrollSize, .map [("index", index),
        ("body", .map ((Window.paged skip size scrollSize).firstBody body)),
        ("scroll", timeout)]) := by
  simp [firstQuery, Value.entries, Value.entries?, Value.toEntries, indexed, given,
    Window.ofBody_paged page, bind, Except.bind, pure, Except.pure]

theorem firstBody_from (w : Window) (body : Entries) : (w.firstBody body).find? "from" = none := by
  rw [Window.firstBody, Table.find?_insert_of_ne _ _ (by decide), Table.find?_erase_of_ne _ (by decide),
    Table.find?_erase_self]

theorem firstBody_size (w : Window) (body : Entries) :
    (w.firstBody body).find? "size" = some w.size := by
  rw [Window.firstBody, Table.find?_insert_self]

theorem next_fresh {query : Value} {w : Window} {parameters : Entries} {first : Batch}
    (asked : firstQuery query c.config.scrollSize c.config.scrollTimeout = .ok (w, .map parameters))
    (texts : parameters.all (fun p => p.1.string?.isSome) = true)
    (carried : first.Carried (c.answer ⟨"search", parameters⟩)) :
    Cursor.next (fresh query) c =
      Cursor.next (.first first.1 w (!first.2.isEmpty) 0 first.2)
        (c.ran ⟨"search", parameters⟩ (.map parameters) .null) := by
  obtain ⟨v, reply, answered, read, named, hits⟩ := carried
  have readable : readFirst reply = .ok (first.1, .list first.2) := by
    simp [readFirst, named, hits, bind, Except.bind, pure, Except.pure]
  refine (start_eq asked).trans ?_
  rw [select, run_eq c "search" .null texts]
  simp only [answered, outcome, read, opening, readable]
  rfl

theorem of_lt_needed_beyond {skip : Nat} {size : Option Nat} {first : Batch} {j : Nat}
    (h : j < needed (size.map (skip + ·)) first.2.length
      (beyond first.1 (!first.2.isEmpty) batches)) :
    (∀ b ∈ first :: batches.take j, b.2 ≠ []) ∧
      ∀ n, size = some n → ((first :: batches.take j).flatMap Prod.snd).length < skip + n := by
  unfold beyond at h
  split at h
  · rename_i goes
    rw [Bool.and_eq_true, Bool.not_eq_true', List.isEmpty_eq_false_iff] at goes
    obtain ⟨filled, below⟩ := of_lt_needed h
    refine ⟨List.forall_mem_cons.mpr ⟨goes.1, filled⟩, ?_⟩
    rintro n rfl
    rw [List.flatMap_cons, List.length_append]
    exact below (skip + n) rfl
  · simp [needed] at h

/-- Whatever the sizes of the batches are, a cursor that is driven to its end gives exactly the
hits of its context that lie in its window, in order. It searches from the start, for no more hits
at once than the window has, and asks for a further batch only while no batch was empty and fewer
hits were read than the window reaches to. -/
theorem exhaust_fresh {query body : Entries} {index : Value} {skip scrollSize : Nat}
    {size : Option Nat} {first : Batch} (indexed : query.find? "index" = some index)
    (given : query.find? "body" = some (.map body)) (page : Paged body skip size)
    (sizes : c.config.scrollSize = .int scrollSize)
    (search : ∀ call : Call, call.method = "search" → first.Carried (c.answer call))
    (serves : c.Serves batches)
    (enough : first.2 ≠ [] → first.1.truthy = true →
      Enough (size.map (skip + ·)) first.2.length batches) :
    ∃ (d : Connection) (sent : Entries) (answer : Answer) (further : List Exchange)
      (scrolls : Nat),
      (∀ n, (windowed skip size (contextHits first batches)).length < n →
        exhaust Cursor.next n (fresh (.map query)) c =
          (.ok (windowed skip size (contextHits first batches)), finished, d)) ∧
      Follows c d ((⟨"search", [("index", index), ("body", .map sent),
        ("scroll", c.config.scrollTimeout)]⟩, answer) :: further) ∧
      sent.find? "from" = none ∧
      sent.find? "size" = some (.int (Window.atOnce skip size scrollSize)) ∧
      further.map (·.1.method) = methods first.1 scrolls ∧
      ∀ j < scrolls, (∀ b ∈ first :: batches.take j, b.2 ≠ []) ∧
        ∀ n, size = some n → ((first :: batches.take j).flatMap Prod.snd).length < skip + n := by
  have asked := firstQuery_paged indexed given page scrollSize c.config.scrollTimeout
  rw [← sizes] at asked
  generalize sentBody : (Window.paged skip size scrollSize).firstBody body = sent at asked
  let call : Call := ⟨"search", [("index", index), ("body", .map sent),
    ("scroll", c.config.scrollTimeout)]⟩
  have begun := next_fresh asked (by rfl) (search call rfl)
  have still : (c.ran call (.map call.arguments) .null).Serves batches :=
    (serves.sent_other (by simp [call])).of_client (Connection.Serves.client_ran _ _ _ _)
  have enough' : (!first.2.isEmpty && first.1.truthy) = true →
      Enough (size.map (skip + ·)) (0 + first.2.length) batches := by
    intro goes
    rw [Bool.and_eq_true, Bool.not_eq_true', List.isEmpty_eq_false_iff] at goes
    rw [Nat.zero_add]
    exact enough goes.1 goes.2
  obtain ⟨d, further, produces, follows, methods⟩ :=
    gives_first scrollSize still first.2 enough'
  rw [contextHits_eq, Nat.sub_zero, drop_cut] at produces
  rw [Nat.zero_add] at methods
  refine ⟨d, sent, c.answer call, further, _, fun n enough => (produces.congr begun).exhaust enough,
    ((Follows.refl c).ran call (by simp [call]) _ _).trans follows, ?_, ?_, methods,
    fun j needed => of_lt_needed_beyond needed⟩
  · rw [← sentBody, firstBody_from]
  · rw [← sentBody, firstBody_size]
    rfl

def inBatches : Server :=
  .scripted [("search", [batch [.int 1, .int 2]]), ("scroll", [batch [.int 3, .int 4], batch [.int 5]])]
where
  batch (hits : List Value) : Answer :=
    .value (.map [("_scroll_id", "s0"), ("hits", .map [("hits", .list hits)])])

theorem carried_batch (hits : List Value) : Batch.Carried ("s0", hits) (inBatches.batch hits) :=
  ⟨_, _, rfl, rfl, rfl, rfl⟩

theorem serves_inBatches (config : Config) :
    (Connection.opened config inBatches).Serves [("s0", [.int 3, .int 4])] := by
  intro later call
  refine ⟨fun scroll b hb => ?_, fun release e broken => ?_⟩
  · cases read : later.countP (·.method = "scroll") with
    | succ n => simp [read] at hb
    | zero =>
      obtain rfl : (Value.str "s0", [Value.int 3, .int 4]) = b := by simpa [read] using hb
      have none : (later.filter (·.method = "scroll")).length = 0 := by
        rw [← List.countP_eq_length_filter, read]
      simp only [Connection.opened, inBatches, Server.scripted, List.nil_append, scroll, none]
      exact carried_batch _
  · simp [Connection.opened, inBatches, Server.scripted, release, Table.find?_cons] at broken

/-- The second to the fourth hit, the last of them in the second batch. -/
theorem exhaust_fresh_inBatches :
    (exhaust Cursor.next 4 (fresh (.map [("index", "posts"),
      ("body", .map [("from", .int 1), ("size", .int 3)])])) (.opened .standard inBatches)).1 =
      .ok [.int 2, .int 3, .int 4] := by
  have page : Paged [("from", .int 1), ("size", .int 3)] 1 (some 3) :=
    ⟨.inl rfl, by decide, rfl⟩
  have first : ∀ call : Call, call.method = "search" →
      Batch.Carried ("s0", [.int 1, .int 2])
        ((Connection.opened .standard inBatches).answer call) := by
    intro call search
    simp only [answer, Connection.opened, inBatches, Server.scripted, search]
    exact carried_batch _
  have indexed : Table.find? ([("index", "posts"),
      ("body", .map [("from", .int 1), ("size", .int 3)])] : Entries) "index" = some "posts" := rfl
  obtain ⟨d, sent, answer, further, scrolls, whole, -⟩ :=
    exhaust_fresh indexed rfl page rfl first (serves_inBatches .standard)
      (fun _ _ => .inr ⟨4, rfl, by decide⟩)
  rw [whole 4 (by decide)]
  rfl

end Cursor

end DocumentSearch
