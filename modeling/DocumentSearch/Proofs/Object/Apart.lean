import DocumentSearch.Proofs.Heap.Apart
import DocumentSearch.Proofs.Object.Runs

/-!
# Builders that share objects and keep apart

Copies have the same clauses in lists of their own, and all builders have the connection in common.
No call changes a clause that another builder can have, nor a list, a table of options or a summary
of another builder. So whatever is done with other builders, a builder ends up as if they had not
been used, unless they are handed to it.
-/
namespace DocumentSearch

open Heap Store

namespace Memory

variable {d : Dialect} {m : Memory}

theorem Step.keeps_clauses (apart : m.heap.Apart) {step : Step} (grounded : step.Grounded m)
    {a : Address} (there : a < m.heap.size .clause) :
    (step.perform d m).heap.clauseAt a = m.heap.clauseAt a := by
  obtain ⟨-, -, spares⟩ := step.perform_spec d apart grounded
  refine spares.cells.clauseAt apart.sound (fun b mem => ?_) there
  obtain ⟨r, used, rfl⟩ := Option.map_eq_some_iff.mp mem
  exact apart.owned r (spares.known r used)

theorem Step.keeps_builder (apart : m.heap.Apart) {step : Step} (grounded : step.Grounded m)
    {o : Ref} (there : o.index < m.heap.bodies.length) (unused : o ∉ step.uses) :
    (step.perform d m).heap.store.get o = m.heap.store.get o := by
  obtain ⟨-, -, spares⟩ := step.perform_spec d apart grounded
  rw [get_store (Nat.lt_of_lt_of_le there spares.count), get_store there,
    spares.other o there unused]
  exact view_of_unused apart spares.known spares.cells there unused

theorem perform_quiet (d : Dialect) (apart : m.heap.Apart) {r : Ref}
    (known : r.index < m.heap.bodies.length) {action : Action} (quiet : action.Quiet) :
    Spares none m.heap (m.perform d r action).2.heap := by
  have spares := (perform_matches d apart known action).becomes.spares
  cases action with
  | searchRequest | openCursor | count | insert | update | updateByQuery | delete | routing
  | parentId | option => exact spares
  | _ => cases quiet

/-- A copy has the clauses themselves, in lists of its own, and asks for the same. -/
theorem clone_shares (d : Dialect) (apart : m.heap.Apart) {b : Ref}
    (known : b.index < m.heap.bodies.length) :
    ∃ c copied, m.perform d b .clone = (.ok (.builder c), copied) ∧
      c.index = m.heap.bodies.length ∧ Spares none m.heap copied.heap ∧
      (∀ k, copied.heap.own (copied.heap.body c) (.bucket k) =
        copied.heap.own (copied.heap.body b) (.bucket k)) ∧
      d.searchRequest copied.heap.store (copied.heap.store.get c) =
        d.searchRequest copied.heap.store (copied.heap.store.get b) ∧
      ∀ others, m.heap.store.Group others → (m.heap.store.get b).refs ⊆ others →
        copied.heap.store.Group (b :: others) ∧ copied.heap.store.Group (c :: others) := by
  have same := perform_matches d apart known .clone
  obtain ⟨c, after, done, place, -, request, groups⟩ :=
    Workspace.clone_apart d m.workspace (b := b) (by rwa [Memory.workspace, size_store])
  rw [done] at same
  obtain ⟨result, ⟨-, store, spares⟩, -⟩ := same
  obtain rfl : c = ⟨m.heap.bodies.length⟩ := congrArg Ref.mk (place.trans (size_store m.heap))
  refine ⟨⟨m.heap.bodies.length⟩, (m.perform d b .clone).2, Prod.ext result rfl, rfl, spares, ?_,
    ?_, ?_⟩
  · obtain ⟨turns, -, lists⟩ := cloneBody_view apart.sound (apart.owned b known)
    have copy : (m.perform d b .clone).2.heap.body ⟨m.heap.bodies.length⟩ =
        (m.heap.cloneBody (m.heap.body b)).1 := by
      rw [← turns.bodies]
      exact body_addBody_self ..
    intro k
    rw [copy, spares.other b known (Option.not_mem_none _)]
    refine (lists k).trans (congrFun ?_ _)
    exact (own_of_frame turns.frame (apart.owned b known)).symm
  · rw [store]
    exact request
  · rw [store]
    exact groups

/-- In a heap in which each builder has its own lists, options and summary, every call keeps it so,
does what it does for builders as values, and changes no builder but its own and no clause that was
there; what writes out a request or executes a write changes nothing that was there. A copy has the
same clauses and asks for the same as the builder that it is made of. From then on either of them
ends up, with the builders that it refers to, as if only these had been used, provided that they are
handed no others. -/
theorem builders_apart (d : Dialect) (m : Memory) (apart : m.heap.Apart) :
    (∀ step : Step, step.Grounded m →
      (step.perform d m).heap.Apart ∧
        (step.perform d m).workspace = (step.seen m).perform d m.workspace ∧
        Spares step.uses m.heap (step.perform d m).heap ∧
        (∀ o : Ref, o.index < m.heap.bodies.length → o ∉ step.uses →
          (step.perform d m).heap.store.get o = m.heap.store.get o) ∧
        ∀ a < m.heap.size .clause, (step.perform d m).heap.clauseAt a = m.heap.clauseAt a) ∧
    (∀ (r : Ref) (action : Action), r.index < m.heap.bodies.length → action.Quiet →
      Spares none m.heap (m.perform d r action).2.heap) ∧
    (∀ b : Ref, b.index < m.heap.bodies.length →
      ∃ c copied, m.perform d b .clone = (.ok (.builder c), copied) ∧
        c.index = m.heap.bodies.length ∧ Spares none m.heap copied.heap ∧
        (∀ k, copied.heap.own (copied.heap.body c) (.bucket k) =
          copied.heap.own (copied.heap.body b) (.bucket k)) ∧
        d.searchRequest copied.heap.store (copied.heap.store.get c) =
          d.searchRequest copied.heap.store (copied.heap.store.get b) ∧
        ∀ others, m.heap.store.Group others → (m.heap.store.get b).refs ⊆ others →
          copied.heap.store.Group (b :: others) ∧ copied.heap.store.Group (c :: others)) ∧
    ∀ steps : List Step, m.Grounded d steps →
      (m.run d steps).heap.Apart ∧
        ∀ mine : List Ref, m.heap.store.Group mine →
          Workspace.Secluded d mine m.workspace (m.seen d steps) →
            ∀ r ∈ mine, (m.run d steps).heap.store.get r =
              (Workspace.alone d mine m.workspace m.heap.store (m.seen d steps)).get r := by
  refine ⟨fun step grounded => ?_, fun r action known => perform_quiet d apart known,
    fun b known => clone_shares d apart known, fun steps grounded => ?_⟩
  · obtain ⟨workspace, kept, spares⟩ := step.perform_spec d apart grounded
    exact ⟨kept, workspace, spares, fun o there => step.keeps_builder apart grounded there,
      fun a there => step.keeps_clauses apart grounded there⟩
  · obtain ⟨workspace, kept⟩ := run_spec apart grounded
    refine ⟨kept, fun mine group secluded r inside => ?_⟩
    have values := Workspace.agree_alone group (.refl _ _) secluded r inside
    rw [← workspace] at values
    exact values

def posts : Memory :=
  let new := Heap.empty.newBody "id"
  ⟨(new.2.addBody { new.1 with index := "posts" }).2, some (.opened .standard Workspace.numbered)⟩

theorem posts_apart : posts.heap.Apart := by
  obtain ⟨turns, -⟩ := newBody_view apart_empty.sound "id"
  have named : Turns none Heap.empty (Heap.empty.newBody "id").2
      { (Heap.empty.newBody "id").1 with index := "posts" } := turns.of_slots rfl
  exact (Becomes.add apart_empty named).apart

def Step.target? : Step → Option Ref
  | act target _ | share target _ _ => some target
  | next _ | close _ => none

/-- The steps that are not done with a builder. -/
def unused (ref : Ref) (steps : List Step) : List Step :=
  steps.filter fun step => step.target? != some ref

def requiring (column : Value) : Action :=
  .fluent (.edit (.criterion (.presence column Criterion.conjunction false)))

def boosting (column : Value) : Action :=
  .fluent (.edit (.withOptions "NotNull" ⟨[column], []⟩ (.map [("boost", .int 2)])))

def grouping (query : Ref) : Action :=
  .fluent (.edit (.criterion (.group (.builder query) Criterion.conjunction)))

def negating (query : Ref) : Action :=
  .fluent (.edit (.criterion (.negation (.builder query) Criterion.conjunction)))

/-- The builder has been given a condition when it is handed to its copy. -/
def handing : List Step :=
  [.act ⟨0⟩ (requiring "views"), .act ⟨1⟩ (grouping ⟨0⟩)]

def asking : List Step := [.act ⟨0⟩ (.read .null), .act ⟨1⟩ (.read .null)]

/-- The builder turns out to be one that cannot be written out. -/
def entangling : List Step := [.act ⟨0⟩ (negating ⟨0⟩), .act ⟨1⟩ (.read .null)]

/-- What becomes of a copy can depend on what is done with the builder that it is made of: if that
builder is handed to it, if the server answers it otherwise after it was asked for that builder, and
if it refers to that builder. -/
theorem run_unused_ne :
    let copied := posts.run .standard [.act ⟨0⟩ .clone]
    let filtered := posts.run .standard
      [.act ⟨0⟩ (.fluent (.edit (.aggregation "own" "filter" (.builder ⟨0⟩) .null))),
        .act ⟨0⟩ .clone]
    (copied.run .standard handing).heap.store.get ⟨1⟩ ≠
        (copied.run .standard (unused ⟨0⟩ handing)).heap.store.get ⟨1⟩ ∧
      (copied.run .standard asking).heap.store.get ⟨1⟩ ≠
        (copied.run .standard (unused ⟨0⟩ asking)).heap.store.get ⟨1⟩ ∧
      (filtered.run .standard entangling).heap.store.get ⟨1⟩ ≠
        (filtered.run .standard (unused ⟨0⟩ entangling)).heap.store.get ⟨1⟩ := by
  intro copied filtered
  refine ⟨fun same => ?_, fun same => ?_, fun same => ?_⟩
  · exact absurd (congrArg (fun b => b.wheres.length) same) (by decide)
  · have first : ((copied.run .standard asking).heap.store.get ⟨1⟩).summary.raw =
        some (Workspace.numberedReply 1) := rfl
    have second : ((copied.run .standard (unused ⟨0⟩ asking)).heap.store.get ⟨1⟩).summary.raw =
        some (Workspace.numberedReply 0) := rfl
    rw [same, second] at first
    cases first
  · have first : ((filtered.run .standard entangling).heap.store.get ⟨1⟩).cache.isSome = false :=
      rfl
    have second : ((filtered.run .standard (unused ⟨0⟩ entangling)).heap.store.get
        ⟨1⟩).cache.isSome = true := rfl
    rw [same, second] at first
    cases first

/-- A builder and its copy are used in turns, and so is a builder that both refer to. The copy is
given a clause that the builder has, and one with options. -/
def turns : List Step :=
  [.act ⟨0⟩ (requiring "views"), .share ⟨2⟩ 1 "filter", .act ⟨2⟩ (boosting "likes"),
    .act ⟨1⟩ (requiring "tag"), .act ⟨0⟩ (.read .null), .act ⟨2⟩ .clone, .act ⟨2⟩ (.read .null)]

theorem builders_apart_copied :
    let m := posts.run .standard [.act ⟨0⟩ .newQuery, .act ⟨0⟩ (negating ⟨1⟩)]
    ∃ copied, m.perform .standard ⟨0⟩ .clone = (.ok (.builder ⟨2⟩), copied) ∧
      (copied.run .standard turns).heap.store.get ⟨0⟩ =
        (Workspace.alone .standard [⟨0⟩, ⟨1⟩] copied.workspace copied.heap.store
          (copied.seen .standard turns)).get ⟨0⟩ ∧
      (copied.run .standard turns).heap.store.get ⟨2⟩ =
        (Workspace.alone .standard [⟨2⟩, ⟨1⟩] copied.workspace copied.heap.store
          (copied.seen .standard turns)).get ⟨2⟩ := by
  intro m
  have grounded : posts.Grounded .standard [.act ⟨0⟩ .newQuery, .act ⟨0⟩ (negating ⟨1⟩)] := by
    decide
  have apart : m.heap.Apart := (run_spec posts_apart grounded).2
  obtain ⟨c, copied, made, place, -, -, -, groups⟩ :=
    (builders_apart .standard m apart).2.2.1 ⟨0⟩ (by decide)
  obtain rfl : c = ⟨2⟩ := congrArg Ref.mk place
  have others : m.heap.store.Group [⟨1⟩] := .cons ⟨nofun, nofun⟩ (by decide) (List.nil_subset _)
  obtain ⟨original, copy⟩ := groups [⟨1⟩] others (List.Subset.refl _)
  have kept := (perform_matches .standard apart (r := ⟨0⟩) (by decide) .clone).becomes.apart
  obtain rfl := (Prod.mk.inj made).2
  obtain ⟨-, ends⟩ := (builders_apart .standard _ kept).2.2.2 turns (by decide)
  have none : ∀ mine : List Ref, [] ⊆ mine := List.nil_subset
  exact ⟨_, rfl,
    ends [⟨0⟩, ⟨1⟩] original
      ⟨fun _ => none _, fun _ => none _, fun _ => none _, fun _ => none _, fun _ => none _,
        fun _ => none _, fun _ => none _, trivial⟩ ⟨0⟩ (by decide),
    ends [⟨2⟩, ⟨1⟩] copy
      ⟨fun _ => none _, fun _ => none _, fun _ => none _, fun _ => none _, fun _ => none _,
        fun _ => none _, fun _ => none _, trivial⟩ ⟨2⟩ (by decide)⟩

end Memory

end DocumentSearch
