import DocumentSearch.Record.Basic
import DocumentSearch.Proofs.Cursor.Exchange
import DocumentSearch.Proofs.Write.Key

/-!
# Removing records

To remove a record sends one request: it deletes the document with the record's id from the index
of its class. A record without an id has no document of its own, and what is sent for it deletes
every document in the index.
-/
namespace DocumentSearch

open Connection Outcome

namespace Builder

variable {b : Builder} {name : String} {id : Value}

/-- The one clause of a builder that asks for a document by its key. -/
def keyClause (name : String) (id : Value) : Clause :=
  ⟨.conjunction, .bool false, [], .basic name .equal id⟩

theorem clauses_key (store : Store) (self : Ref) (name : String) (id : Value) :
    (Criterion.comparison name (some "=") (some id) Criterion.conjunction).clauses store self =
      .ok [(.query, keyClause name id)] := rfl

theorem keyed_eq (store : Store) (key : b.keyName = name) (id : Value) :
    b.keyed store id =
      .ok { b.clone with wheres := [keyClause name id], filters := [], postFilters := [] } := by
  rw [keyed, key, clauses_key]
  rfl

theorem asksForKey_keyed (store : Store) (key : b.keyName = name) (id : Value) :
    ∃ keyed, b.keyed store id = .ok keyed ∧ keyed.AsksForKey id ∧ b.SamePlace keyed := by
  refine ⟨_, keyed_eq store key id, ⟨keyClause name id, [], rfl, ?_, rfl⟩, ⟨rfl, rfl, rfl⟩⟩
  simp only [keyClause, clone, key]

theorem write_sends {α : Type} (method : String) (request : Entries)
    (outcome : Value → Except Misuse α) (c : Connection) (named : method ≠ "options")
    (texts : request.all (fun p => p.1.string?.isSome) = true) :
    ∃ c', (write method (.ok request) outcome (some c)).2 = some c' ∧
      Follows c c' [(⟨method, request⟩, c.answer ⟨method, request⟩)] := by
  have sent := (Follows.refl c).ran ⟨method, request⟩ named (.map request) .null
  refine ⟨_, ?_, sent⟩
  rw [write, c.run_eq method .null texts]
  split
  · rename_i ran
    rw [← (Prod.mk.inj ran).2]
  · rename_i ran
    rw [← (Prod.mk.inj ran).2]

end Builder

namespace Dialect

theorem conditions_of_empty {b : Builder} (d : Dialect) (store : Store) (wheres : b.wheres = [])
    (filters : b.filters = []) (postFilters : b.postFilters = []) :
    d.conditions store b = .ok ⟨[], [], []⟩ := by
  unfold conditions
  cases store.size with
  | zero => rw [conditionsWithin, bucketFragments, wheres, filters, postFilters]; rfl
  | succ depth => rw [conditionsWithin, bucketFragments, wheres, filters, postFilters]; rfl

end Dialect

namespace Record

variable {d : Dialect} {cls : RecordClass} {id : Value}

/-- The index in which a class has its documents. -/
def place (d : Dialect) (cls : RecordClass) : Value := .str (cls.index ++ d.suffix.text)

def deletion (d : Dialect) (cls : RecordClass) (id : Value) : Call :=
  ⟨"delete", [("index", place d cls), ("id", .str id.text)]⟩

def clearance (d : Dialect) (cls : RecordClass) : Call :=
  ⟨"delete_by_query",
    [("index", place d cls), ("body", .map [("query", .map Fragment.matchAll)])]⟩

/-- At most the document of a record is deleted. -/
def RemovesOnly (d : Dialect) (cls : RecordClass) (id : Value) (exchanges : List Exchange) : Prop :=
  exchanges = [] ∨ ∃ answer, exchanges = [(deletion d cls id, answer)]

theorem indexName_newQuery (d : Dialect) (named : cls.index ≠ "") :
    d.indexName cls.newQuery.index = .ok (cls.index ++ d.suffix.text) := by
  have truthy : cls.newQuery.index.truthy = true := decide_eq_true named
  rw [Dialect.indexName, if_pos truthy]
  rfl

theorem indexName_unnamed (d : Dialect) (unnamed : cls.index = "") :
    d.indexName cls.newQuery.index = .error (.invalidQuery .noIndex) := by
  have falsy : ¬cls.newQuery.index.truthy = true := fun h => of_decide_eq_true h unnamed
  rw [Dialect.indexName, if_neg falsy]

theorem deleteRequest_keyed (d : Dialect) (store : Store) (given : id.isNull = false)
    (named : cls.index ≠ "") :
    (do d.deleteRequest (← cls.newQuery.keyed store id)) =
      .ok (deletion d cls id).arguments := by
  have key : cls.newQuery.keyName = "id" := rfl
  obtain ⟨keyed, found, asks, same⟩ := Builder.asksForKey_keyed store key id
  rw [found]
  change d.deleteRequest keyed = _
  rw [Dialect.deleteRequest, same.index, indexName_newQuery d named,
    Dialect.keyOf_of_compares (asks.compares given), Dialect.routingEntry_congr same]
  rfl

theorem deleteByQueryRequest_newQuery (d : Dialect) (store : Store) (named : cls.index ≠ "") :
    d.deleteByQueryRequest store cls.newQuery = .ok (clearance d cls).arguments := by
  have none := d.conditions_of_empty store (b := cls.newQuery) rfl rfl rfl
  rw [Dialect.deleteByQueryRequest, Dialect.byQueryRequest, Dialect.searchRequest,
    Dialect.searchBody, none, indexName_newQuery d named]
  rfl

theorem delete_unnamed (d : Dialect) (store : Store) (unnamed : cls.index = "") (id : Value)
    (c : Connection) : (cls.newQuery.delete d store id (some c)).2 = some c := by
  have none := d.conditions_of_empty store (b := cls.newQuery) rfl rfl rfl
  have key : cls.newQuery.keyName = "id" := rfl
  obtain ⟨keyed, found, -, same⟩ := Builder.asksForKey_keyed store key id
  unfold Builder.delete
  split
  · rw [Dialect.deleteByQueryRequest, Dialect.byQueryRequest, Dialect.searchRequest,
      Dialect.searchBody, none, indexName_unnamed d unnamed]
    rfl
  · rw [found]
    change (Builder.write "delete" (d.deleteRequest keyed) _ (some c)).2 = _
    rw [Dialect.deleteRequest, same.index, indexName_unnamed d unnamed]
    rfl

/-- What is sent to remove a record deletes its own document and nothing else, provided that the
record has an id. Without one, every document in the index of its class is deleted. Nothing is sent
if there is no connection, or if the class has no index. -/
theorem remove_sends (d : Dialect) (store : Store) (cls : RecordClass)
    (attributes : List (String × Value)) (given bound : Line) :
    let id := valueOf attributes "id"
    (∀ e, cls.connection given bound = .error e →
      remove d store cls attributes given bound = (.error e, bound)) ∧
    ∀ c, cls.connection given bound = .ok c →
      ∃ c' exchanges, (remove d store cls attributes given bound).2 = some c' ∧
        Follows c c' exchanges ∧
        (RemovesOnly d cls id exchanges ↔ id.isNull = false ∨ cls.index = "") ∧
        (cls.index ≠ "" → exchanges =
          let call := if id.isNull then clearance d cls else deletion d cls id
          [(call, c.answer call)]) := by
  intro id
  refine ⟨fun e unbound => by rw [remove, unbound], fun c connected => ?_⟩
  have removes : remove d store cls attributes given bound =
      cls.newQuery.delete d store id (some c) := by rw [remove, connected]
  rw [removes]
  by_cases unnamed : cls.index = ""
  · refine ⟨c, [], delete_unnamed d store unnamed id c, .refl c, ?_, fun named => ?_⟩
    · exact ⟨fun _ => .inr unnamed, fun _ => .inl rfl⟩
    · exact absurd unnamed named
  · cases null : id.isNull with
    | true =>
      obtain ⟨c', sent, follows⟩ := Builder.write_sends "delete_by_query"
        (clearance d cls).arguments (fun reply => do return (← reply.get "deleted" .null).truthy) c
        (by decide) rfl
      refine ⟨c', _, ?_, follows, ?_, fun _ => rfl⟩
      · rw [Builder.delete, if_pos null, deleteByQueryRequest_newQuery d store unnamed, sent]
      · refine ⟨?_, ?_⟩
        · rintro (none | ⟨answer, one⟩)
          · cases none
          · have method := congrArg (fun x => x.1.method) (List.cons.inj one).1
            simp [deletion] at method
        · rintro (given | none)
          · cases given
          · exact absurd none unnamed
    | false =>
      obtain ⟨c', sent, follows⟩ := Builder.write_sends "delete" (deletion d cls id).arguments
        (fun reply => do return (← reply.get "result" .null) == "deleted") c (by decide) rfl
      refine ⟨c', _, ?_, follows, ?_, fun _ => rfl⟩
      · rw [Builder.delete, if_neg (by simp [null]), deleteRequest_keyed d store null unnamed, sent]
      · exact ⟨fun _ => .inl rfl, fun _ => .inr ⟨_, rfl⟩⟩

def posts : RecordClass := ⟨"Post", some "posts", none, [], true, true⟩

/-- A post that was never saved takes all posts with it. -/
theorem remove_sends_unsaved :
    let c := Connection.opened .standard (.scripted [])
    let all := clearance .standard posts
    ∃ c', (remove .standard .empty posts [("title", "draft")] none (some c)).2 = some c' ∧
      Follows c c' [(all, c.answer all)] ∧
      ¬RemovesOnly .standard posts .null [(all, c.answer all)] := by
  intro c all
  obtain ⟨-, sends⟩ := remove_sends .standard .empty posts [("title", "draft")] none (some c)
  obtain ⟨c', exchanges, after, follows, only, sent⟩ := sends c rfl
  obtain rfl := sent (by decide)
  refine ⟨c', after, follows, fun own => ?_⟩
  rcases only.mp own with given | unnamed
  · cases given
  · exact absurd unnamed (by decide)

end Record

end DocumentSearch
