import DocumentSearch.Proofs.Cache.History
import DocumentSearch.Proofs.Paging.Alike
import DocumentSearch.Proofs.Paging.Cut

/-!
# Pages of a result

However often and in whatever order the pages of a result are asked for, with pages of other lengths
in between, a page that is taken from memory shows what it would show if it were fetched.
-/
namespace DocumentSearch

open Connection Outcome

namespace Reply

variable {reply found : Entries} {n : ℕ}

def Counts (found : Entries) (n : ℕ) : Prop :=
  found.find? "total" = some (.int n) ∨
    ∃ info : Entries, found.find? "total" = some (.map info) ∧ info.find? "value" = some (.int n)

theorem total_eq (outer : reply.find? "hits" = some (.map found)) (counts : Counts found n) :
    (Summary.ofReply reply).total = .ok (.int n) := by
  have hits : ((Summary.ofReply reply).entries.find? "hits").getD (.map []) = .map found :=
    congrArg (Option.getD · _) outer
  rw [Summary.total, hits, Value.get_eq rfl]
  rcases counts with total | ⟨info, total, value⟩
  · rw [total]
    rfl
  · rw [total]
    change (Except.ok ((Table.find? info "value").getD (.int 0)) : Except Misuse Value) = _
    rw [value]
    rfl

theorem hits_eq {hits : List Value} (outer : reply.find? "hits" = some (.map found))
    (inner : found.find? "hits" = some (.list hits)) : (Value.map reply).hits = .ok hits := by
  have batch : (Value.map reply).batch = .ok (.list hits) :=
    bind_eq_ok.mpr ⟨.map found, by rw [Value.get_eq rfl, outer]; rfl,
      by rw [Value.get_eq rfl, inner]; rfl⟩
  exact bind_eq_ok.mpr ⟨.list hits, batch, rfl⟩

end Reply

/-- A server that answers every search for a page with that page of one list of hits, and with the
length of the list. -/
def Server.SlicesOf (server : Server) (hits : List Value) : Prop :=
  ∀ earlier (request : Dialect.SearchRequest) (start size : ℕ),
    (request.body.find? "from").getD (.int 0) = .int start →
    request.body.find? "size" = some (.int size) →
    ∃ reply found : Entries, (server earlier (.search request)).table? = some reply ∧
      reply.find? "hits" = some (.map found) ∧
      found.find? "hits" = some (.list ((hits.drop start).take size)) ∧
      Reply.Counts found hits.length

def Fetch.OfPage (f : Fetch) (docs : List Value) : Prop :=
  ∃ size : ℕ, f.limit = some (.int size) ∧ f.documents = .ok ((docs.drop f.offset).take size) ∧
    (Summary.ofReply f.reply).total = .ok (.int docs.length)

section Paging

variable {d : Dialect} {server : Server} {store : Store} {ref : Ref} {hits docs : List Value}
  {perPage : ℕ} {page : ℤ}

def Builder.onPage (b : Builder) (perPage : ℕ) (page : ℤ) : Builder :=
  { b with offset := ((max page 1).toNat - 1) * perPage, limit := some (.int perPage) }

theorem Builder.alike_onPage (b : Builder) (perPage : ℕ) (page : ℤ) :
    b.Alike (b.onPage perPage page) := ⟨rfl, rfl, rfl, rfl, rfl, rfl, rfl⟩

theorem Builder.pageStart_int (perPage : ℕ) (page : ℤ) :
    pageStart (.int page) (.int perPage) = .ok (.int ((max 1 page - 1) * perPage)) := by
  change (do
    let before ← ((Number.int 1).max (.int page)).sub (.int 1)
    return Value.ofNumber (← before.mul (.int perPage)) : Except Error Value) = _
  rw [Number.max_int]
  rfl

theorem Builder.limitOf_nat (perPage : ℕ) :
    limitOf (.int perPage) = .ok (some (.int perPage)) := by
  have nonneg : (Number.int perPage).lt (.int 0) = false := by simp
  change (if (Number.int perPage).lt (.int 0) then
    throw (.invalidQuery (.negativeLimit (.int perPage))) else pure (some (.int perPage)) :
    Except Error (Option Number)) = _
  rw [nonneg]
  rfl

theorem Builder.withPage_int (b : Builder) (perPage : ℕ) (page : ℤ) :
    b.withPage (.int page) (.int perPage) = (.ok (), b.onPage perPage page) := by
  have begin : ((max 1 page - 1) * (perPage : ℤ)).toNat = ((max page 1).toNat - 1) * perPage := by
    obtain ⟨k, first⟩ : ∃ k : ℕ, max page 1 = k + 1 := ⟨(max page 1 - 1).toNat, by omega⟩
    have before : ((k : ℤ) + 1 - 1) * perPage = ((k * perPage : ℕ) : ℤ) := by push_cast; ring
    rw [max_comm, first, before, Int.toNat_natCast]
    rfl
  have moved : b.withOffset (.int ((max 1 page - 1) * perPage)) =
      .ok { b with offset := ((max page 1).toNat - 1) * perPage } := by
    rw [← begin]
    rfl
  simp only [Builder.withPage, Builder.pageStart_int, bind, Except.bind, moved, Builder.withLimit,
    Builder.limitOf_nat]
  rfl

theorem Reading.asked_page (b : Builder) (perPage : ℕ) (page : ℤ) :
    (Reading.page (.int perPage) (.int page)).asked b = .ok (b.onPage perPage page) := by
  rw [Reading.asked, Builder.withPage_int]

/-- What is kept of documents is nothing, or a page of them. -/
def Builder.KeepsPage (b : Builder) (docs : List Value) : Prop :=
  b.cache = none ∨ ∃ f : Fetch, b.Recalls f ∧ f.OfPage docs

theorem Builder.KeepsPage.congr {b b' : Builder} (h : b.KeepsPage docs)
    (same : b'.memory = b.memory) : b'.KeepsPage docs := by
  rcases h with uncached | ⟨f, recalls, ofPage⟩
  · exact .inl ((Prod.mk.inj same).1.trans uncached)
  · exact .inr ⟨f, recalls.congr same, ofPage⟩

theorem length_documents {expandInnerHits : Bool}
    (read : hits.mapM (Reply.document expandInnerHits) = .ok docs) : docs.length = hits.length := by
  have marks := map_of_mapM (g := fun _ => ()) (k := fun _ => ()) read fun _ _ _ _ => rfl
  simpa using congrArg List.length marks

theorem Server.SlicesOf.fetch (slices : server.SlicesOf hits) {b : Builder} {c : Connection}
    (leads : c.client.server = server) {request : Dialect.SearchRequest}
    (written : d.searchRequest store b = .ok request)
    (read : hits.mapM (Reply.document b.expandInnerHits) = .ok docs)
    (limit : b.limit = some (.int perPage)) :
    ∃ f b' c', b.fetch d store (some c) =
        (.ok ((docs.drop b.offset).take perPage), b', some c') ∧
      c'.client.server = server ∧ b'.Recalls f ∧ f.OfPage docs := by
  have onPage := Dialect.searchRequest_onPage written
  have start : (request.body.find? "from").getD (.int 0) = .int b.offset := by
    rw [onPage.start]
    by_cases first : b.offset = 0 <;> simp [first, Value.ofNat]
  have size : request.body.find? "size" = some (.int perPage) := by
    rw [onPage.size, limit]
    rfl
  obtain ⟨reply, found, table, outer, inner, counts⟩ :=
    slices c.timedClient.calls request b.offset perPage start size
  have done : (Fetch.of b reply).documents = .ok ((docs.drop b.offset).take perPage) :=
    bind_eq_ok.mpr ⟨_, Reply.hits_eq outer inner, mapM_take (mapM_drop read b.offset) perPage⟩
  have answered : (c.answer (.search request)).table? = some reply := by
    rw [answer, leads, table]
  have sent := (Follows.refl c).ran (.search request) (by simp) (.map request.toEntries) .null
  refine ⟨.of b reply, _, _, Builder.fetch_of_read written answered done, ?_,
    Builder.recalls_keep done, perPage, limit, done, ?_⟩
  · rw [sent.server, leads]
  · rw [length_documents read]
    exact Reply.total_eq outer counts

/-- A page of documents is the same from memory and from the server. -/
theorem Server.SlicesOf.results (slices : server.SlicesOf hits) {b : Builder} {c : Connection}
    (leads : c.client.server = server)
    (writable : ∃ request, d.searchRequest store b = .ok request)
    (read : hits.mapM (Reply.document b.expandInnerHits) = .ok docs)
    (limit : b.limit = some (.int perPage)) (keeps : b.KeepsPage docs) :
    ∃ f b' c', b.results d store (some c) =
        (.ok ((docs.drop b.offset).take perPage), b', some c') ∧
      c'.client.server = server ∧ b'.Recalls f ∧ f.OfPage docs := by
  obtain ⟨request, written⟩ := writable
  have fetched := slices.fetch leads written read limit
  rcases keeps with uncached | ⟨f, recalls, size, limited, documents, total⟩
  · rw [Builder.results, Builder.kept?, uncached]
    exact fetched
  · by_cases onPage : f.For b
    · obtain ⟨shown, found, kept, still⟩ :=
        Builder.results_of_for d store (some c) recalls onPage
      refine ⟨f, b.keep shown, c, ?_, leads, still, size, limited, documents, total⟩
      -- Limits that are whole numbers are the same only if they are one number.
      have same : size = perPage := by
        have limits := onPage.2
        rw [limited, limit] at limits
        simpa [SameLimit, Number.same] using limits
      rw [documents, onPage.1, same] at found
      rw [kept, ← Except.ok.inj found]
    · rw [Builder.results, Builder.kept?_of_not_for recalls onPage]
      exact fetched

/-- What holds between calls that ask for pages. -/
structure Workspace.Paging (d : Dialect) (server : Server) (hits docs : List Value) (ref : Ref)
    (w : Workspace) : Prop where
  bound : ∃ c, w.line = some c ∧ c.client.server = server
  known : ref.index < w.store.size
  writable : ∃ request, d.searchRequest w.store (w.store.get ref) = .ok request
  read : hits.mapM (Reply.document (w.store.get ref).expandInnerHits) = .ok docs
  keeps : (w.store.get ref).KeepsPage docs

theorem Workspace.Paging.paginate {w : Workspace} (h : w.Paging d server hits docs ref)
    (slices : server.SlicesOf hits) (small : docs.length < 2 ^ 53) (pos : 0 < perPage) (page : ℤ) :
    let after := (Action.paginate (.int perPage) (.int page)).perform d w ref
    (∃ p : Page, after.1 = .ok (.value p.value) ∧ p.Shows docs perPage page) ∧
      after.2.Paging d server hits docs ref := by
  obtain ⟨⟨c, line, leads⟩, known, ⟨request, written⟩, read, keeps⟩ := h
  have alike := (w.store.get ref).alike_onPage perPage page
  have writable := Dialect.searchRequest_turned (.refl w.store) alike written
  have accepted := Reading.asked_page (w.store.get ref) perPage page
  obtain ⟨columns, performed⟩ := Reading.perform_of_asked (d := d) accepted
  have keeps : ((w.store.get ref).onPage perPage page).KeepsPage docs := keeps.congr rfl
  obtain ⟨f, b, c', given, leads', recalls, ofPage⟩ := slices.results leads writable read rfl keeps
  obtain ⟨cache, summary, same⟩ :=
    ((w.store.get ref).onPage perPage page).results_builder d w.store w.line
  rw [line, given] at same
  rw [line, given] at performed
  dsimp only at same performed
  have put := w.store.get_set_self ref { b with columns := columns } known
  have later : (w.store.get ref).Alike { b with columns := columns } := by
    rw [same]
    exact alike.trans ⟨rfl, rfl, rfl, rfl, rfl, rfl, rfl⟩
  have total : b.summary.total = .ok (.int docs.length) := by
    obtain ⟨-, -, -, total⟩ := ofPage
    rw [recalls.summary, total]
  obtain ⟨p, made, shows⟩ := Page.pageOf_shows (b := Reading.bearing b.summary) total small pos page
  intro after
  have performed : after = _ := performed
  rw [performed]
  refine ⟨⟨p, ?_, shows⟩, ⟨c', rfl, leads'⟩, ?_, ?_, ?_, ?_⟩
  · exact congrArg (Except.map ActionResult.value) (Reading.shown_page made)
  · rw [Store.size_set]
    exact known
  · dsimp only
    rw [put]
    exact Dialect.searchRequest_turned (.set known later) later written
  · dsimp only
    rw [put, ← later.expandInnerHits]
    exact read
  · dsimp only
    rw [put]
    exact .inr ⟨f, recalls.congr rfl, ofPage⟩

def Workspace.leafed (d : Dialect) (w : Workspace) (ref : Ref) (calls : List (ℕ × ℤ)) : Workspace :=
  w.run d (calls.map fun call => .act ref (.paginate (.int call.1) (.int call.2)))

theorem Workspace.Paging.leafed {w : Workspace} (h : w.Paging d server hits docs ref)
    (slices : server.SlicesOf hits) (small : docs.length < 2 ^ 53) {calls : List (ℕ × ℤ)}
    (positive : ∀ call ∈ calls, 0 < call.1) :
    (w.leafed d ref calls).Paging d server hits docs ref := by
  induction calls generalizing w with
  | nil => exact h
  | cons call rest ih =>
    obtain ⟨first, positive⟩ := List.forall_mem_cons.mp positive
    exact ih (h.paginate slices small first call.2).2 positive

/-- Against a server that answers with slices of one list of hits, every page shows what it should,
whichever pages were asked for before, and the pages of one length make up the documents of all
hits. -/
theorem paginate_cuts (d : Dialect) (w : Workspace) (ref : Ref) (hits docs : List Value)
    (perPage : ℕ) {c : Connection} (known : ref.index < w.store.size)
    (unread : (w.store.get ref).cache = none)
    (writable : ∃ request, d.searchRequest w.store (w.store.get ref) = .ok request)
    (bound : w.line = some c) (slices : c.client.server.SlicesOf hits)
    (read : hits.mapM (Reply.document (w.store.get ref).expandInnerHits) = .ok docs)
    (small : hits.length < 2 ^ 53) (pos : 0 < perPage) (before : ℤ → List (ℕ × ℤ))
    (positive : ∀ page, ∀ call ∈ before page, 0 < call.1) :
    ∃ pages : ℤ → Page,
      (∀ page, ((Action.paginate (.int perPage) (.int page)).perform d
          (w.leafed d ref (before page)) ref).1 = .ok (.value (pages page).value) ∧
        (pages page).Shows docs perPage page) ∧
      Page.Cut docs perPage (pages 1).lastPage.toNat fun page => (pages page).documents := by
  have start : w.Paging d c.client.server hits docs ref :=
    ⟨⟨c, bound, rfl⟩, known, writable, read, .inl unread⟩
  rw [← length_documents read] at small
  have each : ∀ page, ∃ p : Page, ((Action.paginate (.int perPage) (.int page)).perform d
      (w.leafed d ref (before page)) ref).1 = .ok (.value p.value) ∧ p.Shows docs perPage page :=
    fun page => ((start.leafed slices small (positive page)).paginate slices small pos page).1
  choose pages shown shows using each
  refine ⟨pages, fun page => ⟨shown page, shows page⟩, Page.cut_of_shows pos shows ?_⟩
  have first : (1 : ℤ) ≤ Page.countOf docs.length perPage := le_max_right _ _
  rw [(shows 1).lastPage]
  exact Int.toNat_of_nonneg (by omega)

end Paging

def Reply.sliced (hits : List Value) (start size : ℕ) : Entries :=
  [("hits", .map [("total", .int hits.length), ("hits", .list ((hits.drop start).take size))])]

/-- A server that looks for the page in what it is sent. -/
def Server.slicing (hits : List Value) : Server := fun _ call =>
  let body : Entries := ((Value.under call.arguments "body").map?).getD []
  match (body.find? "from").getD (.int 0), body.find? "size" with
  | .int start, some (.int size) => .value (.map (Reply.sliced hits start.toNat size.toNat))
  | _, _ => .value (.map [])

theorem Server.slicesOf_slicing (hits : List Value) : (Server.slicing hits).SlicesOf hits := by
  intro earlier request start size begins ends
  refine ⟨Reply.sliced hits start size, _, ?_, rfl, rfl, .inl rfl⟩
  have body : ((Value.under (Call.search request).arguments "body").map?).getD [] =
      request.body := rfl
  rw [slicing, body, begins, ends]
  rfl

/-- Five posts in pages of two, after pages of other lengths. -/
theorem paginate_cuts_five :
    let posts : List Value := (List.range 5).map fun n => .map [("_id", .int n)]
    let w : Workspace := ⟨⟨[{ Builder.blank "id" with index := "posts" }]⟩,
      some (.opened .standard (.slicing posts))⟩
    ∃ pages : ℤ → Page,
      (∀ page, ((Action.paginate (.int 2) (.int page)).perform .standard
        (w.leafed .standard ⟨0⟩ [(3, page), (2, 3)]) ⟨0⟩).1 = .ok (.value (pages page).value)) ∧
      (pages 1).lastPage = 3 ∧
      (pages 1).documents ++ (pages 2).documents ++ (pages 3).documents = posts := by
  intro posts w
  obtain ⟨pages, shown, cut⟩ := paginate_cuts .standard w ⟨0⟩ posts posts 2 (by decide) rfl
    ⟨_, rfl⟩ rfl (Server.slicesOf_slicing posts) rfl (by decide) (by decide)
    (fun page => [(3, page), (2, 3)]) (by simp)
  have last : (pages 1).lastPage = 3 := (shown 1).2.lastPage.trans (by decide +kernel)
  refine ⟨pages, fun page => (shown page).1, last, ?_⟩
  have together := cut.together
  rw [last] at together
  simpa [List.range_succ] using together

end DocumentSearch
