import DocumentSearch.Proofs.Heap.Growth

/-!
# Clauses for a filter

The clauses of every kind can be asked for in a filter. A call of the kind says which clauses these
are, and they ought to go to the one bucket that was asked for. What such a call puts into the query
is moved there. What it puts into the filter stays in the filter, so a group of filters that is
asked for after the aggregations acts before them.
-/
namespace DocumentSearch

open Outcome

def Clause.into (k : Bucket) (clauses : List (Bucket × Clause)) : List Clause :=
  (clauses.filter (fun c => c.1 = k)).map Prod.snd

theorem Clause.into_cons (k : Bucket) (c : Bucket × Clause) (clauses : List (Bucket × Clause)) :
    into k (c :: clauses) = if c.1 = k then c.2 :: into k clauses else into k clauses := by
  by_cases same : c.1 = k <;> simp [into, same]

theorem Clause.into_append (k : Bucket) (one other : List (Bucket × Clause)) :
    into k (one ++ other) = into k one ++ into k other := by
  simp [into]

theorem Clause.into_map (j k : Bucket) (clauses : List Clause) :
    into k (clauses.map (j, ·)) = if j = k then clauses else [] := by
  by_cases same : j = k <;> simp [into, List.filter_map, Function.comp_def, same]

namespace Builder

theorem place_eq (b : Builder) (clauses : List (Bucket × Clause)) :
    b.place clauses =
      { b with
        wheres := b.wheres ++ Clause.into .query clauses
        filters := b.filters ++ Clause.into .filter clauses
        postFilters := b.postFilters ++ Clause.into .postFilter clauses } := by
  induction clauses generalizing b with
  | nil => simp [place, Clause.into]
  | cons c clauses ih =>
    have rest : b.place (c :: clauses) = (b.append c.1 [c.2]).place clauses := rfl
    obtain ⟨k, c⟩ := c
    rw [rest, ih]
    cases k <;> simp [append, Clause.into_cons]

theorem placeFiltered_eq (b : Builder) (target : Bucket) (clauses : List (Bucket × Clause)) :
    b.placeFiltered target clauses =
      { b with
        filters := b.filters ++ Clause.into .filter clauses
        postFilters := b.postFilters ++ Clause.into .postFilter clauses }.append target
          (Clause.into .query clauses) := by
  have kept : ∀ k : Bucket, k ≠ .query →
      Clause.into k (clauses.filter (fun c => c.1 ≠ .query)) = Clause.into k clauses := by
    intro k other
    have same : ∀ c ∈ clauses, (decide (c.1 = k) && decide (c.1 ≠ .query)) = decide (c.1 = k) := by
      intro c _
      by_cases named : c.1 = k <;> simp [named, other]
    rw [Clause.into, List.filter_filter, List.filter_congr same, Clause.into]
  have none : Clause.into .query (clauses.filter (fun c => c.1 ≠ .query)) = [] := by
    simp [Clause.into, List.filter_filter]
  rw [placeFiltered, place_eq, kept .filter nofun, kept .postFilter nofun, none, List.append_nil]
  rfl

/-- A builder that has a bucket grown by some clauses, each once, and the others as they were. -/
structure Gains (b : Builder) (target : Bucket) (clauses : List Clause) (b' : Builder) : Prop where
  added : ∃ added, added.Perm clauses ∧ b'.bucket target = b.bucket target ++ added
  other : ∀ k, k ≠ target → b'.bucket k = b.bucket k

/-- What goes to the filter anyway is where it was asked for if that is the filter. -/
theorem gains_iff {b : Builder} {target : Bucket} (allowed : target ≠ .query)
    (wheres filters : List Clause) :
    b.Gains target (wheres ++ filters)
        ({ b with filters := b.filters ++ filters }.append target wheres) ↔
      target = .filter ∨ filters = [] := by
  cases target with
  | query => exact absurd rfl allowed
  | filter =>
    refine ⟨fun _ => .inl rfl, fun _ => ⟨⟨filters ++ wheres, List.perm_append_comm, ?_⟩, ?_⟩⟩
    · exact List.append_assoc _ _ _
    · intro k besides
      rw [bucket_append_of_ne _ wheres besides]
      cases k with
      | filter => exact absurd rfl besides
      | query | postFilter => rfl
  | postFilter =>
    constructor
    · intro gains
      have same : b.filters ++ filters = b.filters := gains.other .filter nofun
      exact .inr (List.append_right_eq_self.mp same)
    · rintro (other | rfl)
      · cases other
      · refine ⟨⟨wheres, by rw [List.append_nil], rfl⟩, fun k besides => ?_⟩
        rw [bucket_append_of_ne _ wheres besides, List.append_nil]

end Builder

theorem Store.bucket_modify_place {k : Bucket} {placed : List (Bucket × Clause)}
    (none : Clause.into k placed = []) (store : Store) (self ref : Ref) :
    ((store.modify self (·.place placed)).get ref).bucket k = (store.get ref).bucket k := by
  rw [Store.get_modify]
  split
  · have placed := (store.get ref).bucket_place placed k
    rwa [← Clause.into, none, List.append_nil] at placed
  · rfl

theorem Store.into_groupings (store : Store) (joins : Connective) (inner : Ref) (k : Bucket) :
    Clause.into k (store.groupings joins inner) = store.grouping joins inner k := by
  rw [groupings, Clause.into_append, Clause.into_map, Clause.into_map]
  cases k with
  | query => exact List.append_nil _
  | filter => rfl
  | postFilter => rfl

namespace Criterion

variable {store : Store} {self : Ref} {criterion : Criterion} {refs : List Ref}
  {placed : List (Bucket × Clause)}

theorem Stands.into_postFilter (h : Stands store self criterion refs placed) :
    Clause.into .postFilter placed = [] := by
  induction h with
  | nil => rfl
  | made before made ih => rw [Clause.into_append, ih]; rfl
  | group before joins inner ih =>
    rw [Clause.into_append, ih, Store.into_groupings, List.nil_append]
    exact if_pos (.inl rfl)

theorem Stands.into_filter_eq_nil (h : Stands store self criterion refs placed) :
    Clause.into .filter placed = [] ↔ ∀ ref ∈ refs, (store.get ref).filters = [] := by
  induction h with
  | nil => exact iff_of_true rfl (List.forall_mem_nil _)
  | made before made ih =>
    rw [Clause.into_append, ← ih]
    exact List.append_eq_nil_iff.trans (and_iff_left rfl)
  | group before joins inner ih =>
    rw [Clause.into_append, List.append_eq_nil_iff, List.forall_mem_append, ← ih,
      List.forall_mem_singleton, Store.into_groupings]
    -- As long as no group has gone to the filter, no builder has gained a filter.
    refine and_congr_right fun none => ?_
    have same := Store.bucket_modify_place none store self inner
    rw [Store.grouping, same]
    simp [Builder.bucket]

end Criterion

namespace Edit

variable {store : Store} {self : Ref} {b b' : Builder} {kind bucket : Value}
  {arguments : Arguments Value}

/-- What a call for a filter comes down to, when it is done: a bucket, and a criterion whose clauses
are placed. -/
theorem filter_eq_ok (h : (filter kind arguments bucket).apply store self b = (.ok (), b')) :
    ∃ target criterion clauses,
      bucket.bucket = .ok target ∧ target ≠ .query ∧ criterionOf kind arguments = .ok criterion ∧
      criterion.clauses store self = .ok clauses ∧ b' = b.placeFiltered target clauses := by
  cases done : b.filtered store self kind arguments bucket with
  | error e =>
    simp only [apply, done] at h
    cases h
  | ok after =>
    simp only [apply, done, settle, Prod.mk.injEq, true_and] at h
    subst h
    obtain ⟨target, named, done⟩ := bind_eq_ok.mp done
    obtain ⟨allowed, done⟩ := unless_eq_ok.mp done
    obtain ⟨clauses, made, done⟩ := bind_eq_ok.mp done
    obtain ⟨kind, known, made⟩ := bind_eq_ok.mp made
    obtain ⟨criterion, read, made⟩ := bind_eq_ok.mp made
    exact ⟨target, criterion, clauses, named, allowed, bind_eq_ok.mpr ⟨kind, known, read⟩, made,
      (pure_eq_ok.mp done).symm⟩

/-- A call for a filter adds the clauses that the call of the kind adds, where it would put them
into the query, to the bucket that was asked for. Those that it puts into the filter stay there, so
all of them are in the one bucket just if that is the filter or no group has filters. -/
theorem filter_gains (h : (filter kind arguments bucket).apply store self b = (.ok (), b')) :
    ∃ target criterion wheres filters,
      bucket.bucket = .ok target ∧ target ≠ .query ∧ criterionOf kind arguments = .ok criterion ∧
      (Edit.criterion criterion).apply store self b =
        (.ok (), { b with wheres := b.wheres ++ wheres, filters := b.filters ++ filters }) ∧
      b' = { b with filters := b.filters ++ filters }.append target wheres ∧
      (filters = [] ↔ ∀ ref ∈ criterion.grouped, (store.get ref).filters = []) ∧
      (b.Gains target (wheres ++ filters) b' ↔
        target = .filter ∨ ∀ ref ∈ criterion.grouped, (store.get ref).filters = []) := by
  obtain ⟨target, criterion, clauses, named, allowed, read, made, rfl⟩ := filter_eq_ok h
  have stands := criterion.stands_clauses store self clauses made
  have filter := stands.into_filter_eq_nil
  have postFilter := stands.into_postFilter
  have moved := Builder.placeFiltered_eq b target clauses
  rw [postFilter, List.append_nil] at moved
  refine ⟨target, criterion, Clause.into .query clauses, Clause.into .filter clauses, named,
    allowed, read, ?_, moved, filter, ?_⟩
  · simp only [apply, made]
    change (Except.ok (), b.place clauses) = _
    rw [Builder.place_eq, postFilter, List.append_nil]
  rw [moved, ← filter]
  exact Builder.gains_iff allowed _ _

end Edit

def Store.mixed : Store :=
  ⟨[{ Builder.blank "id" with
      wheres := [⟨.conjunction, .bool false, [], .present "a"⟩]
      filters := [⟨.conjunction, .bool false, [], .present "b"⟩] }]⟩

/-- A group that has a filter leaves it among the filters. -/
theorem Edit.filter_gains_mixed :
    ∃ b' wheres filters,
      (filter "Basic" ⟨[.builder ⟨0⟩], []⟩ "post_filter").apply .mixed ⟨1⟩ (.blank "id") =
        (.ok (), b') ∧
      b'.filters = filters ∧ filters ≠ [] ∧ b'.postFilters = wheres ∧
      ¬(Builder.blank "id").Gains .postFilter (wheres ++ filters) b' := by
  obtain ⟨b', done⟩ : ∃ b', (filter "Basic" ⟨[.builder ⟨0⟩], []⟩ "post_filter").apply .mixed
    ⟨1⟩ (.blank "id") = (.ok (), b') := ⟨_, rfl⟩
  obtain ⟨target, criterion, wheres, filters, named, -, read, -, rfl, empty, gains⟩ :=
    filter_gains done
  obtain rfl : .postFilter = target := Except.ok.inj named
  obtain rfl : .comparison (.builder ⟨0⟩) none none Criterion.conjunction = criterion :=
    Except.ok.inj read
  have some : ¬∀ ref ∈ Criterion.grouped (.comparison (.builder ⟨0⟩) none none
      Criterion.conjunction), (Store.mixed.get ref).filters = [] := fun none =>
    nomatch none ⟨0⟩ (by simp [Criterion.grouped, Value.columnRefs, Value.builder?])
  refine ⟨_, wheres, filters, done, rfl, mt empty.mp some, rfl, fun all => ?_⟩
  exact some ((gains.mp all).resolve_left (by decide))

end DocumentSearch
