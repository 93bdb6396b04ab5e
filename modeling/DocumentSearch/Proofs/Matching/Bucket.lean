import DocumentSearch.Proofs.Matching.Options

/-!
# Buckets in closed form

The clauses of a bucket are joined one after the other. What comes out can be said at once: without
an `or` every clause is required; otherwise the clauses before the first `or` are one alternative
together, and each later clause is another.
-/
namespace DocumentSearch

open Fragment Outcome

/-- Things joined in order, each with whether it is joined by `or`. -/
abbrev Chain (α : Type) := List (Bool × α)

namespace Chain

variable {α β : Type}

def lead (parts : Chain α) : Chain α := parts.takeWhile (fun p => !p.1)

def later (parts : Chain α) : Chain α := parts.dropWhile (fun p => !p.1)

def onParts (f : α → β) (parts : Chain α) : Chain β := parts.map (fun p => (p.1, f p.2))

theorem lead_append_later (parts : Chain α) : parts.lead ++ parts.later = parts :=
  List.takeWhile_append_dropWhile

theorem lead_onParts (f : α → β) (parts : Chain α) :
    (parts.onParts f).lead = parts.lead.onParts f := by
  simp only [lead, onParts, List.takeWhile_map]
  rfl

theorem later_onParts (f : α → β) (parts : Chain α) :
    (parts.onParts f).later = parts.later.onParts f := by
  simp only [later, onParts, List.dropWhile_map]
  rfl

theorem joined_of_mem_lead {parts : Chain α} {p : Bool × α} (h : p ∈ parts.lead) :
    p.1 = false := by
  have := List.all_takeWhile (p := fun p : Bool × α => !p.1) (l := parts)
  simpa using List.all_eq_true.mp this p h

theorem later_cases (parts : Chain α) :
    parts.later = [] ∨ ∃ a rest, parts.later = (true, a) :: rest := by
  induction parts with
  | nil => exact .inl rfl
  | cons p parts ih =>
    obtain ⟨joined, a⟩ := p
    cases joined with
    | false => simpa [later] using ih
    | true => exact .inr ⟨a, parts, rfl⟩

/-- Whether a document satisfies conditions joined in order. -/
def holds {Doc : Type} (parts : Chain (Doc → Bool)) (doc : Doc) : Bool :=
  if parts.later.isEmpty then parts.lead.all (·.2 doc)
  else (!parts.lead.isEmpty && parts.lead.all (·.2 doc)) || parts.later.any (·.2 doc)

end Chain

namespace Fragment

/-- A query that requires all of some fragments; without any there is no query. -/
def allOf (fragments : List Entries) : Entries :=
  if fragments.isEmpty then [] else [("bool", .map [("must", .list (fragments.map Value.map))])]

def anyOf (alternatives : List Value) : Entries := [("bool", .map [("should", .list alternatives)])]

/-- A clause as an alternative; one that is joined by `and` is required in it. -/
def alternative (part : Bool × Entries) : Value := .map (if part.1 then part.2 else allOf [part.2])

/-- The fragment of clauses joined in order. -/
def joining (parts : Chain Entries) : Entries :=
  if parts.later.isEmpty then allOf (parts.map Prod.snd)
  else
    anyOf ((if parts.lead.isEmpty then [] else [.map (allOf (parts.lead.map Prod.snd))]) ++
      parts.later.map alternative)

@[simp] theorem allOf_eq_nil {fragments : List Entries} : allOf fragments = [] ↔ fragments = [] := by
  cases fragments <;> simp [allOf]

@[simp] theorem anyOf_ne_nil (alternatives : List Value) : anyOf alternatives ≠ [] := nofun

theorem merge_allOf (fragments : List Entries) (fragment : Entries) :
    merge (allOf fragments) (Dialect.Joined.required fragment) = allOf (fragments ++ [fragment]) := by
  cases fragments with
  | nil =>
    simp [allOf, Dialect.Joined.required, merge, mergeInto, mergePair, mergeValue, Table.insert]
  | cons f fragments =>
    simp [allOf, Dialect.Joined.required, merge, mergeInto, mergePair, mergeValue, Table.insert,
      Table.find?_cons, Value.map?, Value.list?, Value.seen]

theorem joining_eq_nil {parts : Chain Entries} : joining parts = [] ↔ parts = [] := by
  unfold joining
  split
  · simp
  · rename_i h
    refine ⟨fun h => absurd h (anyOf_ne_nil _), ?_⟩
    rintro rfl
    simp [Chain.later] at h

end Fragment

namespace Dialect

namespace Joined

theorem foldl_lead {lead : Chain Entries} (h : ∀ p ∈ lead, p.1 = false) (before : List Entries) :
    lead.foldl (fun j p => add j p.1 p.2) (.all (allOf before)) =
      .all (allOf (before ++ lead.map Prod.snd)) := by
  induction lead generalizing before with
  | nil => simp
  | cons p lead ih =>
    obtain ⟨joined, fragment⟩ := p
    obtain rfl : joined = false := h _ List.mem_cons_self
    have rest : ∀ p ∈ lead, p.1 = false := fun p hp => h p (List.mem_cons_of_mem _ hp)
    rw [List.foldl_cons, add, merge_allOf, ih rest]
    simp

theorem foldl_later (later : Chain Entries) (before : List Value) :
    later.foldl (fun j p => add j p.1 p.2) (.any before) =
      .any (before ++ later.map alternative) := by
  induction later generalizing before with
  | nil => simp
  | cons p later ih =>
    obtain ⟨joined, fragment⟩ := p
    cases joined with
    | false => rw [List.foldl_cons, add, ih]; simp [alternative, allOf, required]
    | true => rw [List.foldl_cons, add, ih]; simp [alternative]

/-- Chain clauses one after the other gives the closed form. -/
theorem toEntries_foldl (parts : Chain Entries) :
    (parts.foldl (fun j p => add j p.1 p.2) (.all [])).toEntries = joining parts := by
  have start := foldl_lead (fun p hp => parts.joined_of_mem_lead hp) []
  have whole := parts.lead_append_later
  rcases parts.later_cases with h | ⟨fragment, rest, h⟩
  · rw [h, List.append_nil] at whole
    rw [whole] at start
    simp only [joining, h, List.isEmpty_nil, if_true]
    exact congrArg toEntries start
  · have run : parts.foldl (fun j p => add j p.1 p.2) (.all []) =
        (parts.lead ++ parts.later).foldl (fun j p => add j p.1 p.2) (.all (allOf [])) := by
      rw [whole]
      rfl
    rw [run, List.foldl_append, start, h, List.foldl_cons, add, foldl_later]
    simp [joining, h, toEntries, anyOf, alternative]

end Joined

variable (d : Dialect) (sub : Ref → Except Error Conditions)

/-- The fragments of clauses, each with the way it is joined. -/
def clauseFragments (clauses : List Clause) : Except Error (Chain Entries) :=
  clauses.mapM (fun c => do return (c.isOr, ← d.clauseFragment sub c))

theorem foldlM_addClause (clauses : List Clause) (j : Joined) :
    clauses.foldlM (d.addClause sub) j = do
      return (← d.clauseFragments sub clauses).foldl (fun j p => j.add p.1 p.2) j := by
  induction clauses generalizing j with
  | nil => rfl
  | cons c clauses ih =>
    simp only [List.foldlM_cons, clauseFragments, List.mapM_cons, addClause, bind_assoc, pure_bind]
    congr 1
    funext fragment
    rw [ih, clauseFragments]
    simp only [bind_pure_comp, List.foldl_cons]

theorem bucketFragment_eq_ok {clauses : List Clause} {fragment : Entries} :
    d.bucketFragment sub clauses = .ok fragment ↔
      ∃ parts, d.clauseFragments sub clauses = .ok parts ∧ fragment = joining parts := by
  simp only [bucketFragment, foldlM_addClause, bind_assoc, pure_bind, bind_eq_ok, pure_eq_ok,
    Joined.toEntries_foldl]
  simp only [eq_comm]

theorem bucketFragment_eq_nil {clauses : List Clause} {fragment : Entries}
    (h : d.bucketFragment sub clauses = .ok fragment) : fragment = [] ↔ clauses = [] := by
  obtain ⟨parts, hp, rfl⟩ := (d.bucketFragment_eq_ok sub).mp h
  rw [joining_eq_nil, mapM_eq_nil hp]

end Dialect

namespace Engine

variable {Doc : Type} (e : Engine Doc)

theorem accepts_allOf {fragments : List Entries} (h : fragments ≠ []) (doc : Doc) :
    e.accepts (allOf fragments) doc = fragments.all (e.accepts · doc) := by
  cases fragments with
  | nil => exact absurd rfl h
  | cons f fragments => simp [allOf, accepts_must, Function.comp_def]

theorem acceptsValue_alternative (part : Bool × Entries) (doc : Doc) :
    e.acceptsValue (alternative part) doc = e.accepts part.2 doc := by
  obtain ⟨joined, fragment⟩ := part
  cases joined <;> simp [alternative, accepts_allOf]

/-- A bucket that is not empty matches what its clauses, joined in order, ask for. -/
theorem accepts_joining {parts : Chain Entries} (h : parts ≠ []) (doc : Doc) :
    e.accepts (joining parts) doc = (parts.onParts e.accepts).holds doc := by
  unfold joining Chain.holds
  rw [Chain.lead_onParts, Chain.later_onParts]
  by_cases hl : parts.later = []
  · have whole := parts.lead_append_later
    rw [hl, List.append_nil] at whole
    rw [whole]
    simp [hl, Chain.onParts, accepts_allOf, h, Function.comp_def]
  · simp only [anyOf, Chain.onParts, List.isEmpty_map, List.isEmpty_iff, hl, if_false]
    rw [accepts_should _ (by simp [hl])]
    by_cases hf : parts.lead = []
    · simp [hf, acceptsValue_alternative, Function.comp_def]
    · have notEmpty : List.isEmpty parts.lead = false := by simpa using hf
      simp [hf, notEmpty, accepts_allOf, acceptsValue_alternative, Function.comp_def]

end Engine

end DocumentSearch
