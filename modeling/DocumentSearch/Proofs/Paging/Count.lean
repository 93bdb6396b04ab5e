import DocumentSearch.Proofs.Cache.Fetch
import DocumentSearch.Proofs.Paging.Alike

/-!
# Counting

To count what a builder asks for, a copy of it is asked for one document with nothing but its id.
The copy asks for the same conditions and aggregations, on no page and in no order, and the builder
learns nothing of the reply.
-/
namespace DocumentSearch

open Connection Outcome

namespace Reply

variable {reply : Entries} {v : Value}

/-- What a reply says of its total, if it says anything. -/
def total? (reply : Entries) : Option Value := (Value.under reply "hits").fieldsOf.find? "total"

/-- The total that a reply gives: as such, in a table that also says how exact it is, or not at
all, which counts as zero. -/
inductive Totals (reply : Entries) : Value → Prop
  | absent (none : total? reply = none) : Totals reply (.int 0)
  | scalar {v : Value} (given : total? reply = some v) (plain : v.map? = none) : Totals reply v
  | detailed {v : Value} {info : Entries} (given : total? reply = some v)
    (table : v.map? = some info) : Totals reply ((info.find? "value").getD (.int 0))

theorem totals_of_total (h : (Summary.ofReply reply).total = .ok v) : Totals reply v := by
  obtain ⟨total, read, h⟩ := bind_eq_ok.mp h
  obtain ⟨hits, seen, read⟩ := bind_eq_ok.mp read
  have tabled : (Value.under reply "hits").fieldsOf = hits :=
    Value.fieldsOf_getD (Value.entries_eq_ok.mp seen)
  have told : total? reply = Table.find? hits "total" := by rw [total?, tabled]
  obtain rfl := pure_eq_ok.mp read
  cases given : Table.find? hits "total" with
  | none =>
    rw [given] at h told
    obtain rfl := pure_eq_ok.mp h
    exact .absent told
  | some total =>
    rw [given] at h told
    rw [Option.getD_some] at h
    cases table : total.map? with
    | none =>
      rw [table] at h
      obtain rfl := pure_eq_ok.mp h
      exact .scalar told table
    | some info =>
      rw [table] at h
      obtain rfl := pure_eq_ok.mp h
      exact .detailed told table

theorem total_ok (well : WellFormed reply) : ∃ v, (Summary.ofReply reply).total = .ok v := by
  obtain ⟨hits, seen, -⟩ := HasHits.table well
  have read := Value.get_eq seen "total" (.int 0)
  cases table : ((Table.find? hits "total").getD (.int 0)).map? with
  | none => exact ⟨_, bind_eq_ok.mpr ⟨_, read, by rw [table]; rfl⟩⟩
  | some info => exact ⟨_, bind_eq_ok.mpr ⟨_, read, by rw [table]; rfl⟩⟩

end Reply

namespace Dialect

variable {d : Dialect} {store : Store} {b : Builder} {body : Entries} {request : SearchRequest}

/-- A search that asks for what another one asks for, but only for the count of it: for one
document at most and nothing of it but the id, in no order and from no place on. -/
structure SearchRequest.Counts (asked request : SearchRequest) : Prop where
  index : asked.index = request.index
  same : ∀ key ∈ ["query", "post_filter", "aggregations"],
    asked.body.find? (.str key) = request.body.find? (.str key)
  source : asked.body.find? "_source" = some (.list ["_id"])
  size : asked.body.find? "size" = some (.int 1)
  unordered : asked.body.find? "sort" = none
  unpaged : asked.body.find? "from" = none

theorem conditions_counter (d : Dialect) (store : Store) (b : Builder) :
    d.conditions store b.counter = d.conditions store b := by
  unfold conditions
  cases store.size <;> rfl

theorem aggregations_counter (d : Dialect) (store : Store) (b : Builder) :
    d.aggregations store b.counter = d.aggregations store b := by
  unfold aggregations
  cases store.size <;> rfl

theorem searchRequest_counter (h : d.searchRequest store b = .ok request) :
    ∃ asked, d.searchRequest store b.counter = .ok asked ∧ asked.Counts request := by
  obtain ⟨body, written, h⟩ := bind_eq_ok.mp h
  obtain ⟨index, named, h⟩ := bind_eq_ok.mp h
  obtain rfl := pure_eq_ok.mp h
  obtain ⟨parts, aggregations, orders, hp, ha, -, rfl⟩ := searchBody_eq_ok.mp written
  rw [← conditions_counter] at hp
  rw [← aggregations_counter] at ha
  have asked : d.searchBody store b.counter = .ok _ :=
    searchBody_eq_ok.mpr ⟨parts, aggregations, [], hp, ha, rfl, rfl⟩
  refine ⟨_, bind_eq_ok.mpr ⟨_, asked, bind_eq_ok.mpr ⟨index, named, rfl⟩⟩, ?_⟩
  refine ⟨rfl, ?_, rfl, ?_, ?_, ?_⟩
  · intro key asking
    simp only [List.mem_cons, List.not_mem_nil, or_false] at asking
    rcases asking with rfl | rfl | rfl <;>
      simp [Table.find?_cons, Table.find?_append, find?_entryIf, find?_limitEntry, Builder.counter,
        Builder.clone]
  all_goals
    simp [Table.find?_cons, Table.find?_append, find?_entryIf, limitEntry, Builder.counter,
      Value.ofNumber]

end Dialect

namespace Builder

/-- What counting makes of a reply: its total, once its hits could be read. -/
def counted (b : Builder) (reply : Entries) : Except Misuse Value := do
  let _ ← Reply.documents b.expandInnerHits reply
  (Summary.ofReply reply).total

theorem counted_ok (b : Builder) {reply : Entries} (well : Reply.WellFormed reply) :
    ∃ total, b.counted reply = .ok total := by
  have read := Reply.documents_eq b.expandInnerHits well
  obtain ⟨total, told⟩ := Reply.total_ok well
  exact ⟨total, bind_eq_ok.mpr ⟨_, read, told⟩⟩

theorem totals_of_counted {b : Builder} {reply : Entries} {total : Value}
    (h : b.counted reply = .ok total) : Reply.Totals reply total := by
  obtain ⟨-, -, told⟩ := bind_eq_ok.mp h
  exact Reply.totals_of_total told

/-- To count, one search is sent, and whatever comes of it comes of the answer. -/
theorem count_spec {d : Dialect} {store : Store} {b : Builder} (c : Connection)
    {asked : Dialect.SearchRequest} (uncached : b.cache = none)
    (written : d.searchRequest store b.counter = .ok asked) :
    ∃ c', Follows c c' [(.search asked, c.answer (.search asked))] ∧
      match (c.answer (.search asked)).table? with
      | none => ∃ e, b.count d store (some c) = (.error e, some c')
      | some reply => b.count d store (some c) = (Misuse.lift (b.counted reply), some c') := by
  have sent := (Follows.refl c).ran (.search asked) (by simp) (.map asked.toEntries) .null
  have fetched : b.counter.results d store (some c) = b.counter.fetch d store (some c) := rfl
  refine ⟨_, sent, ?_⟩
  cases read : (c.answer (.search asked)).table? with
  | none =>
    obtain ⟨e, unread⟩ := Reply.outcome_of_unread read (.map asked.toEntries)
      b.counter.expandInnerHits b.counter.summary
    refine ⟨e, ?_⟩
    rcases unread with failed | ⟨response, answered, processed⟩
    · simp only [count, uncached, fetched, fetch, written, select_search, failed]
    · simp only [count, uncached, fetched, fetch, written, select_search, answered, processed]
  | some reply =>
    obtain ⟨response, answered, processed⟩ := Reply.outcome_of_read read (.map asked.toEntries)
      b.counter.expandInnerHits b.counter.summary
    have expand : b.expandInnerHits = b.counter.expandInnerHits := rfl
    dsimp only
    rw [counted, expand]
    simp only [count, uncached, fetched, fetch, written, select_search, answered, processed]
    cases Reply.documents b.counter.expandInnerHits reply <;> rfl

end Builder

/-- Counting sends one search, which asks for what the builder asks for, and gives the total of the
reply. The builders stay as they were, whatever comes of it. -/
theorem Action.count_sends (d : Dialect) (w : Workspace) (ref : Ref) {c : Connection}
    {request : Dialect.SearchRequest} (bound : w.line = some c)
    (uncached : (w.store.get ref).cache = none)
    (written : d.searchRequest w.store (w.store.get ref) = .ok request) :
    ∃ asked c', asked.Counts request ∧
      Follows c c' [(.search asked, c.answer (.search asked))] ∧
      (count.perform d w ref).2 = ⟨w.store, some c'⟩ ∧
      (∀ reply, (c.answer (.search asked)).table? = some reply → Reply.WellFormed reply →
        ∃ total, Reply.Totals reply total ∧ (count.perform d w ref).1 = .ok (.value total)) ∧
      ∀ result, (count.perform d w ref).1 = .ok result → ∃ reply total,
        (c.answer (.search asked)).table? = some reply ∧ Reply.Totals reply total ∧
          result = .value total := by
  obtain ⟨asked, copied, counts⟩ := Dialect.searchRequest_counter written
  obtain ⟨c', sent, came⟩ := Builder.count_spec c uncached copied
  refine ⟨asked, c', counts, sent, ?_⟩
  cases read : (c.answer (.search asked)).table? with
  | none =>
    rw [read] at came
    obtain ⟨e, failed⟩ := came
    have performed : count.perform d w ref = (.error e, ⟨w.store, some c'⟩) := by
      rw [perform, bound, failed]
      rfl
    rw [performed]
    exact ⟨rfl, nofun, nofun⟩
  | some reply =>
    rw [read] at came
    have performed : count.perform d w ref =
        ((Misuse.lift ((w.store.get ref).counted reply)).map .value, ⟨w.store, some c'⟩) := by
      rw [perform, bound, came]
      rfl
    rw [performed]
    refine ⟨rfl, ?_, ?_⟩
    · rintro _ ⟨⟩ well
      obtain ⟨total, counted⟩ := (w.store.get ref).counted_ok well
      rw [counted]
      exact ⟨total, Builder.totals_of_counted counted, rfl⟩
    · intro result given
      cases counted : (w.store.get ref).counted reply with
      | error e =>
        rw [counted] at given
        cases given
      | ok total =>
        rw [counted] at given
        cases given
        exact ⟨reply, total, rfl, Builder.totals_of_counted counted, rfl⟩

/-- Titled posts on their third page, of which there are seven in all. -/
theorem Action.count_sends_posts :
    let titled : Clause := ⟨.conjunction, .bool false, [], .present "title"⟩
    let posts : Builder := { Builder.blank "id" with
      index := "posts", columns := ["title"], wheres := [titled]
      limit := some (.int 10), offset := 20 }
    let reply : Entries := [("hits", .map [("total", .map [("value", .int 7)])])]
    let c : Connection := .opened .standard fun _ _ => .value (.map reply)
    ∃ request asked c', Dialect.standard.searchRequest ⟨[posts]⟩ posts = .ok request ∧
      asked.Counts request ∧ Follows c c' [(.search asked, .value (.map reply))] ∧
      Action.count.perform .standard ⟨⟨[posts]⟩, some c⟩ ⟨0⟩ =
        (.ok (.value (.int 7)), ⟨⟨[posts]⟩, some c'⟩) := by
  intro titled posts reply c
  have written : ∃ request, Dialect.standard.searchRequest ⟨[posts]⟩ posts = .ok request := ⟨_, rfl⟩
  obtain ⟨request, written⟩ := written
  obtain ⟨asked, c', counts, sent, after, counted, -⟩ := Action.count_sends .standard
    ⟨⟨[posts]⟩, some c⟩ ⟨0⟩ rfl rfl written
  have well : Reply.WellFormed reply := by
    rintro _ ⟨⟩
    exact ⟨_, rfl, nofun⟩
  obtain ⟨total, totals, result⟩ := counted reply rfl well
  refine ⟨request, asked, c', written, counts, sent, Prod.ext (result.trans ?_) after⟩
  have seven : Reply.total? reply = some (.map [("value", .int 7)]) := rfl
  cases totals with
  | absent none => simp [seven] at none
  | scalar given plain =>
    obtain rfl := Option.some.inj (seven.symm.trans given)
    cases plain
  | detailed given table =>
    obtain rfl := Option.some.inj (seven.symm.trans given)
    cases table
    rfl

end DocumentSearch
