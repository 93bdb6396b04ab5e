import DocumentSearch.Proofs.Cache.History
import DocumentSearch.Proofs.Heap.Agree
import DocumentSearch.Proofs.Paging.Alike

/-!
# Builders that have nothing to do with one another

An action changes no builder but its own. So as long as some builders refer to no others and are
handed no others, they end up as if only they had been used, however the actions on them and on
others take turns. What the server answers is all that reaches them from outside.
-/
namespace DocumentSearch

namespace Store

/-- The places of a later store that were not there before. -/
def added (s t : Store) : List Ref := (List.range' s.size (t.size - s.size)).map Ref.mk

/-- A store of some size or more, with nothing at the new places. -/
def reserve (s : Store) (size : Nat) : Store :=
  ⟨s.builders ++ List.replicate (size - s.size) default⟩

/-- Builders that are there and refer to no others. -/
structure Group (mine : List Ref) (s : Store) : Prop where
  known : ∀ r ∈ mine, r.index < s.size
  closed : s.Closed (· ∈ mine)

variable {s t u : Store} {mine : List Ref} {ref r : Ref}

theorem mem_added : r ∈ s.added t ↔ s.Made t r := by
  obtain ⟨i⟩ := r
  simp only [added, Made, List.mem_map, List.mem_range'_1, Ref.mk.injEq, exists_eq_right]
  omega

theorem size_reserve {size : Nat} (larger : s.size ≤ size) : (s.reserve size).size = size := by
  rw [Store.size] at larger ⊢
  rw [reserve, List.length_append, List.length_replicate, Store.size]
  omega

theorem get_reserve (s : Store) (size : Nat) (r : Ref) : (s.reserve size).get r = s.get r := by
  by_cases known : r.index < s.size
  · rw [get, reserve, List.getElem?_append_left known, get]
  · rw [get_of_unknown (Nat.le_of_not_lt known), get, reserve,
      List.getElem?_append_right (Nat.le_of_not_lt known), List.getElem?_replicate]
    split <;> rfl

/-- A later store in which some builders are as they were. -/
structure Passes (mine : List Ref) (s t : Store) : Prop where
  size : s.size ≤ t.size
  same : ∀ r ∈ mine, t.get r = s.get r

theorem Agree.reserve (agree : s.Agree (· ∈ mine) t) (passes : s.Passes mine u) :
    u.Agree (· ∈ mine) (t.reserve u.size) where
  size := (size_reserve (agree.size ▸ passes.size)).symm
  same r inside := by rw [get_reserve, passes.same r inside, agree.same r inside]

namespace Group

theorem passes (group : s.Group mine) (spares : s.Spares ref t) (outside : ref ∉ mine) :
    s.Passes mine t where
  size := spares.size
  same r inside := spares.other r (group.known r inside) fun same => outside (same ▸ inside)

theorem of_passes (group : s.Group mine) (passes : s.Passes mine t) : t.Group mine where
  known r inside := Nat.lt_of_lt_of_le (group.known r inside) passes.size
  closed r inside := by
    rw [passes.same r inside]
    exact group.closed r inside

theorem cons (group : s.Group mine) (known : ref.index < s.size)
    (refs : (s.get ref).refs ⊆ mine) : s.Group (ref :: mine) where
  known := List.forall_mem_cons.mpr ⟨known, group.known⟩
  closed := by
    refine List.forall_mem_cons.mpr ⟨fun o named => List.mem_cons_of_mem _ (refs named), ?_⟩
    exact fun r inside o named => List.mem_cons_of_mem _ (group.closed r inside o named)

theorem of_grows (group : s.Group mine) (grows : s.GrowsAt ref (· ∈ mine) t) (own : ref ∈ mine) :
    t.Group (mine ++ s.added t) where
  known r inside := by
    rcases List.mem_append.mp inside with inside | new
    · exact Nat.lt_of_lt_of_le (group.known r inside) grows.spares.size
    · exact (mem_added.mp new).2
  closed r inside o named := by
    have wider : o ∈ mine ∨ s.Made t o → o ∈ mine ++ s.added t := fun h =>
      List.mem_append.mpr (h.imp_right mem_added.mpr)
    refine wider ?_
    rcases List.mem_append.mp inside with inside | new
    · by_cases same : r = ref
      · subst same
        exact (grows.own.refs_of named).elim (fun earlier => .inl (group.closed r own o earlier)) id
      · rw [grows.spares.other r (group.known r inside) same] at named
        exact .inl (group.closed r inside o named)
    · exact (grows.made r (mem_added.mp new) o named).imp_right And.left

end Group

end Store

open Store

/-- Actions that write out a request, write documents, count, open a cursor or show something. -/
def Action.Quiet : Action → Prop
  | searchRequest | openCursor | count | insert _ | update _ | updateByQuery _ _ | delete _
  | routing | parentId | option _ => True
  | _ => False

namespace Workspace

def Step.actsOn (mine : List Ref) : Step → Bool
  | act target _ => mine.contains target
  | _ => false

def Step.handed : Step → List Ref
  | act _ action => action.handed
  | _ => []

/-- Some builders, with those that a step on one of them makes. -/
def joined (d : Dialect) (mine : List Ref) (w : Workspace) (step : Step) : List Ref :=
  if step.actsOn mine then mine ++ w.store.added (step.perform d w).store else mine

/-- All along a run, the actions on some builders and on those that they make are handed no
others. -/
def Secluded (d : Dialect) : List Ref → Workspace → List Step → Prop
  | _, _, [] => True
  | mine, w, step :: rest =>
    (step.actsOn mine → step.handed ⊆ mine) ∧
      Secluded d (joined d mine w step) (step.perform d w) rest

/-- A store as a run leaves it if, of all its steps, only those on some builders and on those that
they make are done, each with the connection as it is in the run. Of what others make, no more than
the places is kept. -/
def alone (d : Dialect) : List Ref → Workspace → Store → List Step → Store
  | _, _, aside, [] => aside
  | mine, w, aside, step :: rest =>
    let after := step.perform d w
    let aside :=
      if step.actsOn mine then (step.perform d { w with store := aside }).store
      else aside.reserve after.store.size
    alone d (joined d mine w step) after aside rest

variable {d : Dialect} {w : Workspace} {aside : Store} {mine : List Ref}

/-- An action on one of some builders that is handed none but them, and does the same aside. -/
theorem act_inside {target : Ref} {action : Action} (group : w.store.Group mine)
    (agree : w.store.Agree (· ∈ mine) aside) (own : target ∈ mine)
    (handed : action.handed ⊆ mine) :
    let after := (action.perform d w target).2.store
    after.Group (mine ++ w.store.added after) ∧
      after.Agree (· ∈ mine ++ w.store.added after)
        (action.perform d { w with store := aside } target).2.store := by
  intro after
  have grows := (action.perform_grows d w (group.known target own)).imp (Q := (· ∈ mine))
    fun r named => named.elim (fun given => handed given) (group.closed target own r)
  refine ⟨group.of_grows grows own, ?_⟩
  have done := Action.perform_agree d agree.withUnknown group.closed.withUnknown (.inl own)
    (fun r => .inr) w.line fun r given => .inl (handed given)
  refine done.imp fun r inside => ?_
  exact (List.mem_append.mp inside).imp_right fun new => (mem_added.mp new).1

theorem Step.passes (group : w.store.Group mine) {step : Step}
    (outside : step.actsOn mine = false) : w.store.Passes mine (step.perform d w).store := by
  cases step with
  | act target action =>
    have other : target ∉ mine := by simpa [Step.actsOn] using outside
    exact group.passes (action.perform_spares d w target) other
  | next cursor | close cursor => exact ⟨Nat.le_refl _, fun _ _ => rfl⟩

/-- In a secluded run, some builders end up as they do if only they are used. -/
theorem agree_alone {steps : List Step} (group : w.store.Group mine)
    (agree : w.store.Agree (· ∈ mine) aside) (secluded : Secluded d mine w steps) :
    ∀ r ∈ mine, (w.run d steps).store.get r = (alone d mine w aside steps).get r := by
  -- The group takes in what its own steps make, and both stores go on agreeing on all of it.
  induction steps generalizing mine w aside with
  | nil => exact agree.same
  | cons step rest ih =>
    obtain ⟨handed, secluded⟩ := secluded
    intro r inside
    have run : w.run d (step :: rest) = (step.perform d w).run d rest := rfl
    rw [run, alone]
    cases acts : step.actsOn mine with
    | false =>
      have passes := Step.passes (d := d) group acts
      rw [joined, acts] at secluded ⊢
      exact ih (group.of_passes passes) (agree.reserve passes) secluded r inside
    | true =>
      rw [joined, acts] at secluded ⊢
      cases step with
      | act target action =>
        have own : target ∈ mine := by simpa [Step.actsOn] using acts
        obtain ⟨group, agree⟩ := act_inside (d := d) group agree own (handed acts)
        exact ih group agree secluded r (List.mem_append_left _ inside)
      | next cursor | close cursor => cases acts

end Workspace

theorem Dialect.searchRequest_clone (d : Dialect) (s : Store) (b : Builder) :
    d.searchRequest s b.clone = d.searchRequest s b := by
  have alike : b.clone.Alike b := ⟨rfl, rfl, rfl, rfl, rfl, rfl, rfl⟩
  have conditions := conditions_congr (d := d) (.refl s) alike
  have aggregations := aggregations_congr (d := d) (.refl s) alike
  unfold searchRequest searchBody
  rw [conditions, aggregations]
  rfl

namespace Workspace

theorem clone_apart (d : Dialect) (w : Workspace) {b : Ref} (known : b.index < w.store.size) :
    ∃ c copied, Action.clone.perform d w b = (.ok (.builder c), copied) ∧
      c.index = w.store.size ∧ copied.store.get b = w.store.get b ∧
      d.searchRequest copied.store (copied.store.get c) =
        d.searchRequest copied.store (copied.store.get b) ∧
      ∀ others, w.store.Group others → (w.store.get b).refs ⊆ others →
        copied.store.Group (b :: others) ∧ copied.store.Group (c :: others) := by
  have own : (w.store.add (w.store.get b).clone).2.get b = w.store.get b :=
    get_add_of_lt _ _ known
  have copy : (w.store.add (w.store.get b).clone).2.get ⟨w.store.size⟩ = (w.store.get b).clone :=
    get_add_self _ _
  refine ⟨⟨w.store.size⟩, { w with store := (w.store.add (w.store.get b).clone).2 }, rfl, rfl, own,
    ?_, fun others group refs => ?_⟩
  · dsimp only
    rw [own, copy]
    exact d.searchRequest_clone _ _
  · have added : (w.store.add (w.store.get b).clone).2.Group others :=
      group.of_passes ⟨by rw [size_add]; exact Nat.le_succ _, fun r inside =>
        get_add_of_lt _ _ (group.known r inside)⟩
    have size := size_add w.store (w.store.get b).clone
    refine ⟨added.cons ?_ (by rwa [own]), added.cons ?_ (by rwa [copy])⟩
    · exact size ▸ Nat.lt_succ_of_lt known
    · exact size ▸ Nat.lt_succ_self _

end Workspace

end DocumentSearch
