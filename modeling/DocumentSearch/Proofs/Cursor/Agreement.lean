import DocumentSearch.Proofs.Cursor.Reading
import DocumentSearch.Proofs.Paging.Pages

/-!
# Cursors against single requests

A server holds a list of hits. To take the documents of a page with one request and to draw them
from a cursor, batch after batch, comes to the same, unless the page has no room at all: a request
for no documents gets none, while a cursor takes that for no limit.
-/
namespace DocumentSearch

open Connection Batch Outcome

/-- A search that opens a context, with batches of a size. -/
structure Call.Opens (call : Call) (size : ℕ) : Prop where
  method : call.method = "search"
  kept : ∃ timeout, call.arguments.find? "scroll" = some timeout
  body : ∃ body : Entries, call.arguments.find? "body" = some (.map body) ∧
    body.find? "from" = none ∧ body.find? "size" = some (.int size)

namespace Connection

/-- A server that holds one list of hits, as it is met from here on. A search for a page is answered
with the page. A search that opens a context is answered with a first batch, and then each request
for more with the next one; those behind the last hit are empty. No release of a context fails in
another way than by being refused. -/
structure Holds (c : Connection) (hits : List Value) : Prop where
  page : ∀ (request : Dialect.SearchRequest) (start size : ℕ),
    (request.body.find? "from").getD (.int 0) = .int start →
    request.body.find? "size" = some (.int size) →
    ∃ reply found : Entries, (c.answer (.search request)).table? = some reply ∧
      reply.find? "hits" = some (.map found) ∧
      found.find? "hits" = some (.list ((hits.drop start).take size))
  context : ∀ (call : Call) (size : ℕ), call.Opens size → ∃ ids : ℕ → Value,
    (ids 0).truthy = true ∧ Carried (ids 0, Page.slice hits size 1) (c.answer call) ∧
    ∀ later next,
      (next.method = "scroll" →
        Carried (ids (later.countP (·.method = "scroll") + 1),
            Page.slice hits size (later.countP (·.method = "scroll") + 2))
          (c.client.server ((c.sent call).client.calls ++ later) next)) ∧
      (next.method = "clear_scroll" →
        ∀ e, c.client.server ((c.sent call).client.calls ++ later) next ≠ .broken e)

end Connection

namespace Page

variable {α : Type} {all : List α} {size : ℕ}

theorem slice_eq_nil_of_le {j k : ℕ} (le : j ≤ k) (empty : slice all size (j + 1) = []) :
    slice all size (k + 1) = [] := by
  rw [slice, List.take_eq_nil_iff, List.drop_eq_nil_iff, Nat.add_sub_cancel] at empty
  rcases empty with rfl | past
  · exact List.take_zero
  · refine slice_eq_nil (past.trans ?_)
    rw [Nat.add_sub_cancel]
    exact Nat.mul_le_mul_right size le

end Page

namespace Batch

/-- Where nothing follows an empty batch, all hits stand before it. -/
theorem untilEmpty_eq_flatMap {batches : List Batch}
    (last : batches.Pairwise fun b later => b.2 = [] → later.2 = []) :
    untilEmpty batches = batches.flatMap Prod.snd := by
  induction batches with
  | nil => rfl
  | cons b rest ih =>
    obtain ⟨first, last⟩ := List.pairwise_cons.mp last
    by_cases empty : b.2 = []
    · rw [untilEmpty_of_empty empty, List.flatMap_cons, empty, List.nil_append]
      refine (List.flatMap_eq_nil_iff.mpr fun later mem => ?_).symm
      exact first later mem empty
    · rw [untilEmpty_cons empty, List.flatMap_cons, ih last]

/-- The batches of a list of hits, under the ids that they come with. -/
def ofHits (hits : List Value) (size : ℕ) (ids : ℕ → Value) (count : ℕ) : List Batch :=
  (List.range count).map fun k => (ids k, Page.slice hits size (k + 1))

variable {hits : List Value} {size : ℕ} {ids : ℕ → Value}

theorem untilEmpty_ofHits (count : ℕ) :
    untilEmpty (ofHits hits size ids count) = hits.take (count * size) := by
  have last : (ofHits hits size ids count).Pairwise fun b later => b.2 = [] → later.2 = [] := by
    rw [ofHits, List.pairwise_map]
    exact List.pairwise_lt_range.imp fun below => Page.slice_eq_nil_of_le (Nat.le_of_lt below)
  rw [untilEmpty_eq_flatMap last, ofHits, List.flatMap_map]
  exact Page.flatMap_slice hits size count

abbrev further (hits : List Value) (size : ℕ) (ids : ℕ → Value) (count : ℕ) : List Batch :=
  (List.range count).map fun k => (ids (k + 1), Page.slice hits size (k + 2))

theorem contextHits_further (truthy : (ids 0).truthy = true) (pos : 1 ≤ size) {count : ℕ}
    (enough : hits.length ≤ count) :
    contextHits (ids 0, Page.slice hits size 1) (further hits size ids count) = hits := by
  have all : (ids 0, Page.slice hits size 1) :: further hits size ids count =
      ofHits hits size ids (count + 1) := by
    rw [ofHits, List.range_succ_eq_map, List.map_cons, List.map_map]
    rfl
  have whole : hits.length ≤ (count + 1) * size := by
    have := Nat.mul_le_mul_left (count + 1) pos
    omega
  rw [contextHits, if_pos truthy, all, untilEmpty_ofHits, List.take_of_length_le whole]

theorem enough_further (limit : Option ℕ) (read : ℕ) (pos : 1 ≤ size) :
    Enough limit read (further hits size ids (hits.length + 1)) := by
  refine .inl ⟨_, List.mem_map_of_mem (List.mem_range.mpr (Nat.lt_succ_self _)), ?_⟩
  refine Page.slice_eq_nil ?_
  have := Nat.mul_le_mul_left (hits.length + 1) pos
  change hits.length ≤ (hits.length + 2 - 1) * size
  rw [show hits.length + 2 - 1 = hits.length + 1 by omega]
  omega

end Batch

namespace Connection.Holds

variable {c : Connection} {hits : List Value} {call : Call} {size : ℕ}

theorem opening (holds : c.Holds hits) (opens : call.Opens size) :
    ∃ ids : ℕ → Value, (ids 0).truthy = true ∧
      Carried (ids 0, Page.slice hits size 1) (c.answer call) ∧
      ∀ count query bindings, (c.ran call query bindings).Serves (further hits size ids count) := by
  obtain ⟨ids, truthy, first, onwards⟩ := holds.context call size opens
  refine ⟨ids, truthy, first, fun count query bindings => ?_⟩
  refine Connection.Serves.of_client (c := c.sent call) ?_
    (Connection.Serves.client_ran c call query bindings)
  intro later next
  have kept : (c.sent call).client.server = c.client.server := by simp [sent, Client.send, Client.note]
  rw [kept]
  refine ⟨fun scroll b given => ?_, (onwards later next).2⟩
  rw [List.getElem?_map, Option.map_eq_some_iff] at given
  obtain ⟨k, found, rfl⟩ := given
  obtain ⟨known, rfl⟩ := List.getElem?_eq_some_iff.mp found
  rw [List.getElem_range]
  exact (onwards later next).1 scroll

end Connection.Holds

/-- The number of hits that a cursor takes a limit for. -/
def Window.bound (limit : ℕ) : Option ℕ := if limit = 0 then none else some limit

namespace Window

theorem ofBody_of_no_size {body : Entries} (zero : body.find? "size" = some (.int 0))
    (scrollSize : Number) : ofBody body scrollSize = ofBody (body.erase "size") scrollSize := by
  have start : Value.under body "from" = Value.under (body.erase "size") "from" :=
    congrArg (Option.getD · _) (Table.find?_erase_of_ne body (by decide)).symm
  have size : (Value.under body "size").orElse (.int 0) =
      (Value.under (body.erase "size") "size").orElse (.int 0) := by
    rw [Value.under, zero, Value.under, Table.find?_erase_self]
    rfl
  rw [ofBody, ofBody, start, size]

theorem ofBody_onPage {request : Dialect.SearchRequest} {offset limit : ℕ}
    (page : request.OnPage offset (some (.int limit))) (scrollSize : ℕ) :
    ofBody request.body (.int scrollSize) = .ok (.paged offset (bound limit) scrollSize) := by
  obtain ⟨start, size⟩ := page
  have skipped : request.body.find? "from" = some (.int offset) ∨
      request.body.find? "from" = none ∧ offset = 0 := by
    by_cases first : offset = 0
    · exact .inr ⟨by rw [start, if_pos first], first⟩
    · exact .inl (by rw [start, if_neg first]; rfl)
  by_cases zero : limit = 0
  · subst zero
    rw [ofBody_of_no_size size, bound, if_pos rfl]
    refine ofBody_paged ⟨?_, Table.find?_erase_self _ _⟩ scrollSize
    rwa [Table.find?_erase_of_ne _ (by decide)]
  · have sized : Paged request.body offset (some limit) :=
      ⟨skipped, Nat.one_le_iff_ne_zero.mpr zero, size⟩
    rw [bound, if_neg zero]
    exact ofBody_paged sized scrollSize

end Window

namespace DocumentCursor

variable {d : Dialect} {store : Store} {ref : Ref}

theorem nextOn_running (s : Cursor) (c : Connection) :
    next d store (running ref s) (some c) =
      ((pull store ref s c).1, (pull store ref s c).2.1, some (pull store ref s c).2.2) := rfl

/-- Hits that are drawn one by one are read one by one, up to the first that cannot be. -/
theorem exhaust_running {s t : Cursor} {c e : Connection} {hits : List Value}
    (h : Produces Cursor.next s c hits t e) {n : ℕ} (enough : hits.length < n) :
    (exhaust (next d store) n (running ref s) (some c)).1 =
      Misuse.lift (hits.mapM (Reply.document (store.get ref).expandInnerHits)) := by
  induction h generalizing n with
  | ends stop =>
    obtain ⟨n, rfl⟩ : ∃ m, n = m + 1 := ⟨n - 1, by omega⟩
    rw [exhaust, nextOn_running, pull, stop]
    rfl
  | @gives s t u c e f hit hits step rest ih =>
    obtain ⟨n, rfl⟩ : ∃ m, n = m + 1 := ⟨n - 1, by omega⟩
    rw [List.length_cons] at enough
    have later := ih (by omega : hits.length < n)
    rw [List.mapM_cons]
    cases read : Reply.document (store.get ref).expandInnerHits hit with
    | error m =>
      simp only [exhaust, nextOn_running, pull, step, read]
      rfl
    | ok document =>
      simp only [exhaust, nextOn_running, pull, step, read]
      generalize exhaust (next d store) n (running ref t) (some e) = drawn at later ⊢
      obtain ⟨result, after⟩ := drawn
      obtain rfl : result = _ := later
      cases hits.mapM (Reply.document (store.get ref).expandInnerHits) <;> rfl

theorem next_fresh_eq {c : Connection} {request : Dialect.SearchRequest}
    (written : d.searchRequest store (store.get ref) = .ok request) :
    next d store (fresh ref) (some c) =
      next d store (running ref (.fresh (.map request.toEntries))) (some c) := by
  simp only [next, nextOn, written]

end DocumentCursor

/-- The documents of hits, for a builder whose search can be written. -/
def Builder.shown (d : Dialect) (store : Store) (b : Builder) (hits : List Value) :
    Except Error (List Value) := do
  let _ ← d.searchRequest store b
  Misuse.lift (hits.mapM (Reply.document b.expandInnerHits))

section Agreement

variable {d : Dialect} {store : Store} {ref : Ref} {c : Connection} {hits : List Value}
  {limit : ℕ}

theorem Builder.read_of_holds {b : Builder} (holds : c.Holds hits) (uncached : b.cache = none)
    (limited : b.limit = some (.int limit)) :
    (b.read d store .null (some c)).1 = b.shown d store ((hits.drop b.offset).take limit) := by
  have kept : b.kept? = none := by rw [kept?, uncached]
  have columns : b.columnsFor .null = .ok b.columns := by
    rw [columnsFor, if_neg]
    simp [Value.truthy]
  have fetched : (b.read d store .null (some c)).1 = (b.fetch d store (some c)).1 := by
    rw [read, columns]
    change (b.results d store (some c)).1 = _
    rw [results, kept]
  rw [fetched, shown]
  cases written : d.searchRequest store b with
  | error e => simp only [fetch, written]; rfl
  | ok request =>
    have page := Dialect.searchRequest_onPage written
    have start : (request.body.find? "from").getD (.int 0) = .int b.offset := by
      rw [page.start]
      by_cases first : b.offset = 0 <;> simp [first, Value.ofNat]
    have size : request.body.find? "size" = some (.int limit) := by
      rw [page.size, limited]
      rfl
    obtain ⟨reply, found, table, outer, inner⟩ := holds.page request b.offset limit start size
    obtain ⟨response, answered, processed⟩ := Reply.outcome_of_read table
      (.map request.toEntries) b.expandInnerHits b.summary
    have read : Reply.documents b.expandInnerHits reply =
        ((hits.drop b.offset).take limit).mapM (Reply.document b.expandInnerHits) := by
      rw [Reply.documents, Reply.hits_eq outer inner]
      rfl
    rw [read] at processed
    simp only [fetch, written, select_search, answered, processed]
    cases ((hits.drop b.offset).take limit).mapM (Reply.document b.expandInnerHits) <;> rfl

theorem Cursor.firstQuery_onPage {request : Dialect.SearchRequest} {offset : ℕ}
    (page : request.OnPage offset (some (.int limit))) (scrollSize : ℕ) (timeout : Value) :
    firstQuery (.map request.toEntries) (.int scrollSize) timeout =
      .ok (.paged offset (Window.bound limit) scrollSize, .map [("index", .str request.index),
        ("body", .map ((Window.paged offset (Window.bound limit) scrollSize).firstBody
          request.body)), ("scroll", timeout)]) := by
  have index : Table.find? request.toEntries "index" = some (.str request.index) := rfl
  have body : Table.find? request.toEntries "body" = some (.map request.body) := rfl
  simp [firstQuery, Value.entries, Value.entries?, Value.toEntries, index, body,
    Window.ofBody_onPage page, bind, Except.bind, pure, Except.pure]

theorem Window.one_le_atOnce {scrollSize : ℕ} (offset : ℕ) (pos : 1 ≤ scrollSize) :
    1 ≤ atOnce offset (bound limit) scrollSize := by
  unfold bound
  split
  · exact pos
  · simp only [atOnce, Nat.le_min]
    omega

theorem Batch.length_windowed_le (skip : ℕ) (size : Option ℕ) (hits : List Value) :
    (windowed skip size hits).length ≤ hits.length := by
  cases size with
  | none =>
    rw [windowed, List.length_drop]
    omega
  | some n =>
    rw [windowed, List.length_take, List.length_drop]
    omega

/-- All hits of a window are drawn, in order. -/
theorem Connection.Holds.produces {request : Dialect.SearchRequest} {offset scrollSize : ℕ}
    (holds : c.Holds hits) (page : request.OnPage offset (some (.int limit)))
    (sizes : c.config.scrollSize = .int scrollSize) (pos : 1 ≤ scrollSize) :
    ∃ e, Produces Cursor.next (.fresh (.map request.toEntries)) c
      (windowed offset (Window.bound limit) hits) .finished e := by
  have asked := Cursor.firstQuery_onPage page scrollSize c.config.scrollTimeout
  rw [← sizes] at asked
  have one : 1 ≤ Window.atOnce offset (Window.bound limit) scrollSize :=
    Window.one_le_atOnce offset pos
  generalize atOnce : Window.atOnce offset (Window.bound limit) scrollSize = size at one
  generalize sentBody : (Window.paged offset (Window.bound limit) scrollSize).firstBody
    request.body = body at asked
  have opens : Call.Opens ⟨"search", [("index", .str request.index), ("body", .map body),
      ("scroll", c.config.scrollTimeout)]⟩ size := by
    refine ⟨rfl, ⟨_, rfl⟩, body, rfl, ?_, ?_⟩
    · rw [← sentBody, Cursor.firstBody_from]
    · rw [← sentBody, Cursor.firstBody_size, ← atOnce]
      rfl
  obtain ⟨ids, truthy, first, serves⟩ := holds.opening opens
  have begun := Cursor.next_fresh asked (by rfl) first
  obtain ⟨e, more, produces, -, -⟩ := Cursor.gives_first scrollSize
    (serves (hits.length + 1) _ .null) (Page.slice hits size 1)
    fun _ => enough_further ((Window.bound limit).map (offset + ·)) _ one
  have all := contextHits_further truthy one (Nat.le_succ hits.length)
  rw [← Cursor.contextHits_eq] at all
  rw [all, Nat.sub_zero, drop_cut] at produces
  exact ⟨e, produces.congr begun⟩

theorem DocumentCursor.exhaust_of_holds {scrollSize : ℕ} (holds : c.Holds hits)
    (limited : (store.get ref).limit = some (.int limit))
    (sizes : c.config.scrollSize = .int scrollSize) (pos : 1 ≤ scrollSize) {n : ℕ}
    (enough : hits.length < n) :
    (exhaust (next d store) n (fresh ref) (some c)).1 =
      (store.get ref).shown d store
        (windowed (store.get ref).offset (Window.bound limit) hits) := by
  obtain ⟨n, rfl⟩ : ∃ m, n = m + 1 := ⟨n - 1, by omega⟩
  cases written : d.searchRequest store (store.get ref) with
  | error e =>
    simp only [exhaust, next, nextOn, Builder.shown, written]
    rfl
  | ok request =>
    have page := Dialect.searchRequest_onPage written
    rw [limited] at page
    obtain ⟨e, produces⟩ := holds.produces page sizes pos
    have begun : exhaust (next d store) (n + 1) (fresh ref) (some c) =
        exhaust (next d store) (n + 1) (running ref (.fresh (.map request.toEntries))) (some c) := by
      simp only [exhaust, next_fresh_eq written]
    have fewer := length_windowed_le (store.get ref).offset (Window.bound limit) hits
    rw [begun, exhaust_running produces (by omega), Builder.shown, written]
    rfl

theorem Builder.shown_eq_shown_nil_iff {b : Builder} :
    b.shown d store hits = b.shown d store [] ↔
      hits = [] ∨ ∃ e, d.searchRequest store b = .error e := by
  unfold shown
  cases written : d.searchRequest store b with
  | error e =>
    have same : (Except.error e : Except Error (List Value)) = .error e ↔
        hits = [] ∨ ∃ e', (Except.error e : Except Error Dialect.SearchRequest) = .error e' := by
      simp
    exact same
  | ok request =>
    have asked : ¬∃ e, (Except.ok request : Except Error Dialect.SearchRequest) = .error e := nofun
    rw [or_iff_left asked]
    constructor
    · intro same
      have none : hits.mapM (Reply.document b.expandInnerHits) = .ok [] := lift_eq_ok.mp same
      exact (mapM_eq_nil none).mp rfl
    · rintro rfl
      rfl

end Agreement

/-- A cursor that is driven to its end gives what a single request gets, unless the limit is zero
and there are hits behind the offset: a request for none gets none, but the cursor gives them all. -/
theorem DocumentCursor.exhaust_eq_read_iff {d : Dialect} {store : Store} {ref : Ref}
    {c c' : Connection} {hits : List Value} {limit scrollSize n : ℕ} (holds : c.Holds hits)
    (holds' : c'.Holds hits) (uncached : (store.get ref).cache = none)
    (limited : (store.get ref).limit = some (.int limit))
    (sizes : c'.config.scrollSize = .int scrollSize) (pos : 1 ≤ scrollSize)
    (enough : hits.length < n) :
    let b := store.get ref
    let got := (b.read d store .null (some c)).1
    let drawn := (exhaust (next d store) n (fresh ref) (some c')).1
    got = b.shown d store ((hits.drop b.offset).take limit) ∧
    drawn = b.shown d store (windowed b.offset (Window.bound limit) hits) ∧
    (drawn = got ↔ limit ≠ 0 ∨ hits.length ≤ b.offset ∨ ∃ e, d.searchRequest store b = .error e) := by
  intro b got drawn
  have taken : got = _ := Builder.read_of_holds holds uncached limited
  have drawn_eq : drawn = b.shown d store (windowed b.offset (Window.bound limit) hits) :=
    exhaust_of_holds holds' limited sizes pos enough
  refine ⟨taken, drawn_eq, ?_⟩
  rw [taken, drawn_eq]
  by_cases zero : limit = 0
  · subst zero
    have all : windowed b.offset (Window.bound 0) hits = hits.drop b.offset := rfl
    rw [all, List.take_zero, Builder.shown_eq_shown_nil_iff, List.drop_eq_nil_iff]
    simp
  · have same : windowed b.offset (Window.bound limit) hits = (hits.drop b.offset).take limit := by
      rw [Window.bound, if_neg zero]
      rfl
    rw [same]
    simp [zero]

namespace Server

def askedSize (call : Call) : ℕ :=
  let body : Entries := ((Value.under call.arguments "body").map?).getD []
  match body.find? "size" with
  | some (.int size) => size.toNat
  | _ => 0

/-- A server that holds one list of hits and one context, that of the first search. -/
def holding (hits : List Value) : Server := fun earlier call =>
  if call.method = "search" then
    if Table.has call.arguments "scroll" then batch (askedSize call) 1
    else slicing hits earlier call
  else if call.method = "scroll" then
    match earlier.find? (·.method = "search") with
    | some opening => batch (askedSize opening) (earlier.countP (·.method = "scroll") + 2)
    | none => .value (.map [])
  else .value (.map [])
where
  batch (size number : ℕ) : Answer := Cursor.inBatches.batch (Page.slice hits size number)

theorem askedSize_of_opens {call : Call} {size : ℕ} (opens : call.Opens size) :
    askedSize call = size := by
  obtain ⟨body, given, -, sized⟩ := opens.body
  have found : ((Value.under call.arguments "body").map?).getD [] = body := by
    rw [Value.under, given]
    rfl
  simp only [askedSize, found, sized, Int.toNat_natCast]

theorem calls_opened_sent (config : Config) (server : Server) (call : Call) :
    ((Connection.opened config server).sent call).client.calls =
      (Connection.opened config server).chosen ++ [call] := by
  simp [sent, calls_timedClient, Connection.opened]

theorem method_of_chosen {c : Connection} {call : Call} (mem : call ∈ c.chosen) :
    call.method = "options" := by
  unfold chosen at mem
  split at mem
  · rw [List.mem_singleton.mp mem]
  · cases mem

theorem holds_holding (config : Config) (hits : List Value) :
    (Connection.opened config (holding hits)).Holds hits := by
  constructor
  · intro request start size begins ends
    obtain ⟨reply, found, table, outer, inner, -⟩ :=
      slicesOf_slicing hits (Connection.opened config (holding hits)).timedClient.calls request start
        size begins ends
    exact ⟨reply, found, table, outer, inner⟩
  · intro call size opens
    have kept : Table.has call.arguments "scroll" = true := by
      obtain ⟨timeout, given⟩ := opens.kept
      rw [Table.has, given]
      rfl
    refine ⟨fun _ => "s0", rfl, ?_, fun later next => ⟨fun scroll => ?_, fun release e broken => ?_⟩⟩
    · have first : (Connection.opened config (holding hits)).answer call =
          holding.batch hits size 1 := by
        rw [answer]
        change holding hits _ call = _
        rw [holding, if_pos opens.method, if_pos kept, askedSize_of_opens opens]
      rw [first]
      exact Cursor.carried_batch _
    · rw [calls_opened_sent]
      generalize chose : (Connection.opened config (holding hits)).chosen = chosen
      have others : ∀ other ∈ chosen, other.method = "options" := by
        rw [← chose]
        exact fun other => method_of_chosen
      have opening : (chosen ++ [call] ++ later).find? (·.method = "search") = some call := by
        have none : chosen.find? (·.method = "search") = none := by
          refine List.find?_eq_none.mpr fun other mem => ?_
          simp [others other mem]
        simp [List.find?_append, none, opens.method]
      have none : chosen.countP (·.method = "scroll") = 0 := by
        refine List.countP_eq_zero.mpr fun other mem => ?_
        simp [others other mem]
      have count : (chosen ++ [call] ++ later).countP (·.method = "scroll") =
          later.countP (·.method = "scroll") := by
        rw [List.countP_append, List.countP_append, none]
        simp [opens.method]
      have answered : holding hits (chosen ++ [call] ++ later) next =
          holding.batch hits size (later.countP (·.method = "scroll") + 2) := by
        simp only [holding, scroll, opening, count, askedSize_of_opens opens]
        rfl
      change Carried _ (holding hits (chosen ++ [call] ++ later) next)
      rw [answered]
      exact Cursor.carried_batch _
    · change holding hits _ next = _ at broken
      simp [holding, release] at broken

end Server

/-- Five posts: with an offset of one and a limit of three a cursor in batches of two draws what a
request gets, but with a limit of zero it draws the four behind the first. -/
theorem DocumentCursor.exhaust_eq_read_iff_five :
    let posts : List Value := (List.range 5).map fun n => .map [("_id", .int n)]
    let c : Connection := .opened { Config.standard with scrollSize := .int 2 } (.holding posts)
    let store (limit : ℕ) : Store :=
      ⟨[{ Builder.blank "id" with index := "posts", offset := 1, limit := some (.int limit) }]⟩
    let got (limit : ℕ) := (((store limit).get ⟨0⟩).read .standard (store limit) .null (some c)).1
    let drawn (limit : ℕ) :=
      (exhaust (next .standard (store limit)) 6 (fresh ⟨0⟩) (some c)).1
    drawn 3 = got 3 ∧ drawn 0 ≠ got 0 := by
  intro posts c store got drawn
  have holds : c.Holds posts := Server.holds_holding _ posts
  have agree (limit : ℕ) : drawn limit = got limit ↔ limit ≠ 0 ∨ posts.length ≤ 1 ∨
      ∃ e, Dialect.standard.searchRequest (store limit) ((store limit).get ⟨0⟩) = .error e :=
    (exhaust_eq_read_iff holds holds rfl rfl rfl (by decide) (by decide)).2.2
  refine ⟨(agree 3).mpr (.inl (by decide)), fun same => ?_⟩
  rcases (agree 0).mp same with other | few | ⟨e, refused⟩
  · exact other rfl
  · exact absurd few (by decide)
  · cases refused

end DocumentSearch
