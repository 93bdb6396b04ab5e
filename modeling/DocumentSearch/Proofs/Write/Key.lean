import DocumentSearch.Execution.Write
import DocumentSearch.Proofs.Outcome

/-!
# The document that a single write is for

A request to delete or to update one document takes its id from the first clause of the builder: it
is the text of the value that the clause compares a field with. Which field that is, how it is
compared and whether the clause is negated does not count, so any comparison in the first place is
taken for one of the key.
-/
namespace DocumentSearch

open Outcome

def Condition.compared? : Condition → Option Value
  | .basic _ _ value => some value
  | .date _ _ value => some value
  | _ => none

namespace Builder

variable {b other : Builder} {v : Value}

/-- The first clause of the query compares some field with a value. -/
def Compares (b : Builder) (v : Value) : Prop :=
  ∃ first rest, b.wheres = first :: rest ∧ first.condition.compared? = some v ∧ v.isNull = false

/-- The first clause of the query asks for the document whose key is a value. -/
def AsksForKey (b : Builder) (v : Value) : Prop :=
  ∃ first rest, b.wheres = first :: rest ∧ first.condition = .basic b.keyName .equal v ∧
    first.negated.truthy = false

structure SamePlace (b other : Builder) : Prop where
  index : other.index = b.index
  routing : other.routing = b.routing
  parentId : other.parentId = b.parentId

theorem AsksForKey.compares (h : b.AsksForKey v) (given : v.isNull = false) : b.Compares v := by
  obtain ⟨first, rest, wheres, asked, -⟩ := h
  exact ⟨first, rest, wheres, by rw [asked]; rfl, given⟩

end Builder

namespace Dialect

variable {d : Dialect} {b other : Builder} {v : Value}

/-- A request that deletes or updates one document. -/
def WritesOne (d : Dialect) (b : Builder) (request : Entries) : Prop :=
  d.deleteRequest b = .ok request ∨ ∃ values, d.updateRequest b values = .ok request

theorem keyOf_cons {first : Clause} {rest : List Clause} (wheres : b.wheres = first :: rest) :
    keyOf b =
      match first.condition.compared? with
      | some v => keyOf.ofValue first.kind v
      | none => .error (.invalidQuery (.notKeyClause first.kind)) := by
  obtain ⟨connective, negated, options, condition⟩ := first
  rw [keyOf, wheres]
  cases condition <;> rfl

theorem keyOf_of_compares (h : b.Compares v) : keyOf b = .ok v.text := by
  obtain ⟨first, rest, wheres, compared, given⟩ := h
  rw [keyOf_cons wheres, compared]
  exact if_neg (by simp [given])

theorem keyOf_refused (h : ∀ v, ¬b.Compares v) :
    ∃ fault, keyOf b = .error (.invalidQuery fault) := by
  cases wheres : b.wheres with
  | nil => exact ⟨.noKeyClause, by rw [keyOf, wheres]⟩
  | cons first rest =>
    refine ⟨.notKeyClause first.kind, ?_⟩
    rw [keyOf_cons wheres]
    cases compared : first.condition.compared? with
    | none => rfl
    | some v =>
      cases null : v.isNull with
      | true => exact if_pos null
      | false => exact absurd ⟨first, rest, wheres, compared, null⟩ (h v)

theorem compares_of_keyOf {id : String} (h : keyOf b = .ok id) :
    ∃ v, b.Compares v ∧ v.text = id := by
  by_cases some : ∃ v, b.Compares v
  · obtain ⟨v, compares⟩ := some
    rw [keyOf_of_compares compares] at h
    exact ⟨v, compares, Except.ok.inj h⟩
  · obtain ⟨fault, refused⟩ := keyOf_refused fun v compares => some ⟨v, compares⟩
    rw [refused] at h
    cases h

theorem routingEntry_congr (same : b.SamePlace other) : routingEntry other = routingEntry b := by
  rw [routingEntry, routingEntry, same.routing, same.parentId]

/-- A write for one document has the id that the first clause compares with. -/
theorem WritesOne.compares {request : Entries} (h : d.WritesOne b request) :
    ∃ v, b.Compares v ∧ request.find? "id" = some (.str v.text) := by
  rcases h with h | ⟨values, h⟩
  · simp only [deleteRequest, bind_eq_ok, pure_eq_ok] at h
    obtain ⟨index, -, id, found, rfl⟩ := h
    obtain ⟨v, compares, rfl⟩ := compares_of_keyOf found
    exact ⟨v, compares, by simp [Table.find?_cons]⟩
  · simp only [updateRequest, bind_eq_ok, pure_eq_ok] at h
    obtain ⟨index, -, id, found, document, -, rfl⟩ := h
    obtain ⟨v, compares, rfl⟩ := compares_of_keyOf found
    exact ⟨v, compares, by simp [Table.find?_cons]⟩

theorem singleWrite_refused (h : ∀ v, ¬b.Compares v) (values : Entries) :
    (∃ fault, d.deleteRequest b = .error (.invalidQuery fault)) ∧
      ∃ fault, d.updateRequest b values = .error (.invalidQuery fault) := by
  obtain ⟨fault, refused⟩ := keyOf_refused h
  unfold deleteRequest updateRequest indexName
  rw [refused]
  split
  · exact ⟨⟨_, rfl⟩, _, rfl⟩
  · exact ⟨⟨_, rfl⟩, _, rfl⟩

theorem singleWrite_congr (same : b.SamePlace other) (hb : b.Compares v) (ho : other.Compares v)
    (values : Entries) :
    d.deleteRequest other = d.deleteRequest b ∧
      d.updateRequest other values = d.updateRequest b values := by
  unfold deleteRequest updateRequest
  rw [keyOf_of_compares hb, keyOf_of_compares ho, same.index, routingEntry_congr same]
  exact ⟨rfl, rfl⟩

/-- A write for one document goes to the id that the first clause compares some field with, as if
the clause asked for that key; where the clause does ask for it, the write is for the document with
that key. Without a value to compare with there is no write. -/
theorem singleWrite_target (d : Dialect) (b : Builder) :
    (∀ request, d.WritesOne b request →
        ∃ v, b.Compares v ∧ request.find? "id" = some (.str v.text)) ∧
      (∀ v index, b.AsksForKey v → v.isNull = false → d.indexName b.index = .ok index →
        d.deleteRequest b =
          .ok (("index", .str index) :: ("id", .str v.text) :: routingEntry b)) ∧
      (∀ v keyed values, b.Compares v → keyed.AsksForKey v → b.SamePlace keyed →
        d.deleteRequest b = d.deleteRequest keyed ∧
          d.updateRequest b values = d.updateRequest keyed values) ∧
      ((∀ v, ¬b.Compares v) → ∀ values,
        (∃ fault, d.deleteRequest b = .error (.invalidQuery fault)) ∧
          ∃ fault, d.updateRequest b values = .error (.invalidQuery fault)) := by
  refine ⟨fun request written => written.compares, ?_, ?_, fun none => singleWrite_refused none⟩
  · intro v index asks given named
    rw [deleteRequest, named, keyOf_of_compares (asks.compares given)]
    rfl
  · intro v keyed values compares asks same
    have given : v.isNull = false := by
      obtain ⟨-, -, -, -, given⟩ := compares
      exact given
    obtain ⟨deletes, updates⟩ := singleWrite_congr (d := d) same compares (asks.compares given) values
    exact ⟨deletes.symm, updates.symm⟩

end Dialect

def Builder.oftenViewed : Builder :=
  { Builder.blank "id" with
    index := "posts"
    wheres := [⟨.conjunction, .bool false, [], .basic "views" .greater (.int 18)⟩] }

def Builder.eighteenth : Builder :=
  { Builder.blank "id" with
    index := "posts"
    wheres := [⟨.conjunction, .bool false, [], .basic "id" .equal (.int 18)⟩] }

/-- Deleting a post by its views deletes the post whose id is the number of views. -/
theorem Dialect.singleWrite_target_oftenViewed :
    Dialect.standard.deleteRequest .oftenViewed = .ok [("index", "posts"), ("id", "18")] ∧
      ∀ v, ¬Builder.oftenViewed.AsksForKey v := by
  obtain ⟨-, -, taken, -⟩ := Dialect.standard.singleWrite_target .oftenViewed
  obtain ⟨-, written, -, -⟩ := Dialect.standard.singleWrite_target .eighteenth
  have asks : Builder.eighteenth.AsksForKey (.int 18) := ⟨_, _, rfl, rfl, rfl⟩
  have compares : Builder.oftenViewed.Compares (.int 18) := ⟨_, _, rfl, rfl, rfl⟩
  refine ⟨?_, ?_⟩
  · rw [(taken (.int 18) .eighteenth [] compares asks ⟨rfl, rfl, rfl⟩).1]
    exact written (.int 18) "posts" asks rfl rfl
  · rintro v ⟨first, rest, wheres, asked, -⟩
    obtain ⟨rfl, -⟩ := List.cons.inj wheres
    have column : ("views" : Value) = "id" := (Condition.basic.inj asked).1
    simp at column

end DocumentSearch
