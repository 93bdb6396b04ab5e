import DocumentSearch.Proofs.Object.Cells

/-!
# Heaps in which builders are apart

As long as every builder has its objects for itself, what is done with one of them is seen at no
other one, and new builders come with new objects.
-/
namespace DocumentSearch

namespace Heap

/-- Each builder has the objects in its slots for itself. Clauses can be in the lists of many. -/
structure Apart (h : Heap) : Prop where
  sound : h.Sound
  owned : ∀ r : Ref, r.index < h.bodies.length → h.Owns (h.body r)
  apart : ∀ r q : Ref, r.index < h.bodies.length → q.index < h.bodies.length → r ≠ q →
    (h.body r).Apart (h.body q)

/-- A later heap in which every builder but the one that was used is the same object, and all
objects that were there, but those in the slots of that one, are as they were. -/
structure Spares (used : Option Ref) (h h' : Heap) : Prop where
  known : ∀ r ∈ used, r.index < h.bodies.length
  count : h.bodies.length ≤ h'.bodies.length
  other : ∀ q : Ref, q.index < h.bodies.length → q ∉ used → h'.body q = h.body q
  cells : Frame (used.map h.body) h h'
  mine : ∀ r ∈ used, ∀ s, (h.body r).At s.kind ((h'.body r).slots s) ∨
    h.size s.kind ≤ (h'.body r).slots s

/-- A heap after some use, with the builders as values that it then has. -/
structure Becomes (used : Option Ref) (h : Heap) (s : Store) (h' : Heap) : Prop where
  apart : h'.Apart
  shows : h'.store = s
  spares : Spares used h h'

variable {h h' h'' : Heap} {r q : Ref} {o : Body} {used mid : Option Ref} {s s' : Store}

theorem apart_empty : Heap.empty.Apart := ⟨nofun, nofun, nofun⟩

/-! ## Builders at their places -/

theorem body_setBody_self (known : r.index < h.bodies.length) : (h.setBody r o).body r = o := by
  simp [body, setBody, known]

theorem body_setBody_of_ne (other : q ≠ r) : (h.setBody r o).body q = h.body q := by
  have places : r.index ≠ q.index := fun same => other (congrArg Ref.mk same).symm
  simp [body, setBody, List.getElem?_set_ne places]

theorem setBody_body (h : Heap) (r : Ref) : h.setBody r (h.body r) = h := by
  by_cases known : r.index < h.bodies.length
  · simp [setBody, body, known]
  · rw [setBody, List.set_eq_of_length_le (Nat.le_of_not_lt known)]

theorem body_addBody_self (h : Heap) (o : Body) : (h.addBody o).2.body (h.addBody o).1 = o := by
  simp [body, addBody]

theorem body_addBody_of_lt (known : r.index < h.bodies.length) :
    (h.addBody o).2.body r = h.body r := by
  simp [body, addBody, List.getElem?_append_left known]

theorem size_store (h : Heap) : h.store.size = h.bodies.length := List.length_map ..

theorem get_store (known : r.index < h.bodies.length) : h.store.get r = h.view (h.body r) := by
  simp [store, Store.get, body, known]

namespace Turns

variable {base : Option Body}

theorem body (t : Turns base h h' o) (q : Ref) : h'.body q = h.body q := by
  rw [Heap.body, Heap.body, t.bodies]

theorem count (t : Turns base h h' o) : h'.bodies.length = h.bodies.length :=
  congrArg List.length t.bodies

theorem count_setBody (t : Turns base h h' o) (r : Ref) :
    (h'.setBody r o).bodies.length = h.bodies.length := by
  rw [setBody, List.length_set, t.bodies]

theorem setBody_self (t : Turns base h h' o) (known : r.index < h.bodies.length) :
    (h'.setBody r o).body r = o := body_setBody_self (t.bodies ▸ known)

theorem setBody_of_ne (t : Turns base h h' o) (other : q ≠ r) :
    (h'.setBody r o).body q = h.body q := (body_setBody_of_ne other).trans (t.body q)

theorem count_addBody (t : Turns base h h' o) :
    (h'.addBody o).2.bodies.length = h.bodies.length + 1 := by
  rw [addBody, List.length_append, t.bodies]
  rfl

theorem addBody_self (t : Turns base h h' o) :
    (h'.addBody o).2.body ⟨h.bodies.length⟩ = o := by
  rw [← t.bodies]
  exact body_addBody_self h' o

theorem addBody_of_lt (t : Turns base h h' o) (known : q.index < h.bodies.length) :
    (h'.addBody o).2.body q = h.body q :=
  (body_addBody_of_lt (t.bodies ▸ known)).trans (t.body q)

end Turns

/-! ## What stays as it was -/

theorem view_of_unused (apart : h.Apart) (known : ∀ r ∈ used, r.index < h.bodies.length)
    (frame : Frame (used.map h.body) h h') (there : q.index < h.bodies.length) (other : q ∉ used) :
    h'.view (h.body q) = h.view (h.body q) := by
  refine frame.view_of_apart apart.sound ?_ (apart.owned q there) ?_
  · rintro b mem
    obtain ⟨r, inside, rfl⟩ := Option.map_eq_some_iff.mp mem
    exact apart.owned r (known r inside)
  · rintro b mem
    obtain ⟨r, inside, rfl⟩ := Option.map_eq_some_iff.mp mem
    exact apart.apart r q (known r inside) there fun same => other (same ▸ inside)

theorem store_of_frame (apart : h.Apart) (bodies : h'.bodies = h.bodies) (frame : Frame none h h') :
    h'.store = h.store := by
  refine congrArg Store.mk ?_
  rw [bodies]
  refine List.ext_getElem (by simp) fun i left right => ?_
  have there : i < h.bodies.length := by rwa [List.length_map] at left
  have none : ∀ r ∈ (none : Option Ref), r.index < h.bodies.length := nofun
  have view : h'.view (h.body ⟨i⟩) = h.view (h.body ⟨i⟩) :=
    view_of_unused apart none frame there nofun
  rw [body, List.getElem?_eq_getElem there] at view
  rw [List.getElem_map, List.getElem_map]
  exact view

theorem store_put (apart : h.Apart) (known : r.index < h.bodies.length)
    (t : Turns (some (h.body r)) h h' o) :
    (h'.setBody r o).store = h.store.set r (h'.view o) := by
  have inside : ∀ q ∈ some r, q.index < h.bodies.length := fun q mem =>
    Option.mem_some.mp mem ▸ known
  refine congrArg Store.mk ?_
  refine List.ext_getElem (by simp [setBody, t.bodies, store]) fun i left right => ?_
  have there : i < h.bodies.length := by
    rw [List.length_map, t.count_setBody] at left
    exact left
  simp only [setBody, t.bodies, List.map_set, List.getElem_set, store, List.getElem_map]
  by_cases same : r.index = i
  · rw [if_pos same, if_pos same]
    rfl
  · rw [if_neg same, if_neg same]
    have other : Ref.mk i ∉ some r := fun mem =>
      same (congrArg Ref.index (Option.mem_some.mp mem))
    have view : h'.view (h.body ⟨i⟩) = h.view (h.body ⟨i⟩) :=
      view_of_unused apart inside t.frame there other
    rw [body, List.getElem?_eq_getElem there] at view
    exact view

namespace Apart

theorem put (apart : h.Apart) (known : r.index < h.bodies.length)
    (t : Turns (some (h.body r)) h h' o) : (h'.setBody r o).Apart := by
  have separate : ∀ q, q.index < h.bodies.length → q ≠ r → o.Apart (h.body q) := by
    intro q there other
    refine t.apart (apart.owned q there) fun b mem => ?_
    obtain rfl := Option.mem_some.mp mem
    exact apart.apart r q known there other.symm
  refine ⟨t.sound, fun q there => ?_, fun p q first second ne => ?_⟩
  · rw [t.count_setBody] at there
    by_cases same : q = r
    · subst same
      rw [t.setBody_self known]
      exact t.owned.with_bodies _
    · rw [t.setBody_of_ne same]
      exact (t.owns (apart.owned q there)).with_bodies _
  · rw [t.count_setBody] at first second
    by_cases left : p = r <;> by_cases right : q = r
    · exact absurd (left.trans right.symm) ne
    · subst left
      rw [t.setBody_self known, t.setBody_of_ne right]
      exact separate q second right
    · subst right
      rw [t.setBody_self known, t.setBody_of_ne left]
      exact (separate p first left).symm
    · rw [t.setBody_of_ne left, t.setBody_of_ne right]
      exact apart.apart p q first second ne

theorem drop (apart : h.Apart) (t : Turns none h h' o) : h'.Apart := by
  refine ⟨t.sound, fun q there => ?_, fun p q first second ne => ?_⟩
  · rw [t.count] at there
    rw [t.body]
    exact t.owns (apart.owned q there)
  · rw [t.count] at first second
    rw [t.body, t.body]
    exact apart.apart p q first second ne

theorem add (apart : h.Apart) (t : Turns none h h' o) : (h'.addBody o).2.Apart := by
  have separate : ∀ q, q.index < h.bodies.length → o.Apart (h.body q) := fun q there =>
    t.apart (apart.owned q there) nofun
  have places : ∀ q : Ref, q.index < (h'.addBody o).2.bodies.length →
      q.index < h.bodies.length ∨ q = ⟨h.bodies.length⟩ := by
    rintro ⟨i⟩ there
    rw [t.count_addBody] at there
    exact (Nat.lt_succ_iff_lt_or_eq.mp there).imp_right (congrArg Ref.mk)
  refine ⟨t.sound, fun q there => ?_, fun p q first second ne => ?_⟩
  · rcases places q there with earlier | rfl
    · rw [t.addBody_of_lt earlier]
      exact (t.owns (apart.owned q earlier)).with_bodies _
    · rw [t.addBody_self]
      exact t.owned.with_bodies _
  · rcases places p first with left | rfl <;> rcases places q second with right | rfl
    · rw [t.addBody_of_lt left, t.addBody_of_lt right]
      exact apart.apart p q left right ne
    · rw [t.addBody_of_lt left, t.addBody_self]
      exact (separate p left).symm
    · rw [t.addBody_of_lt right, t.addBody_self]
      exact separate q right
    · exact absurd rfl ne

end Apart

namespace Spares

theorem refl (known : ∀ r ∈ used, r.index < h.bodies.length) : Spares used h h where
  known := known
  count := Nat.le_refl _
  other _ _ _ := rfl
  cells := .refl _ h
  mine _ _ s := .inl ⟨s, rfl, rfl⟩

/-- The later use is of the same builder, or of one that the earlier use has made. -/
theorem trans (a : Spares used h h') (b : Spares mid h' h'')
    (within : ∀ r ∈ mid, r ∈ used ∨
      h.bodies.length ≤ r.index ∧ ∀ s, h.size s.kind ≤ (h'.body r).slots s) :
    Spares used h h'' where
  known := a.known
  count := Nat.le_trans a.count b.count
  other q there unused := by
    rw [← a.other q there unused]
    refine b.other q (Nat.lt_of_lt_of_le there a.count) fun mem => ?_
    exact (within q mem).elim unused fun new => Nat.not_lt_of_le new.1 there
  cells := by
    refine a.cells.trans b.cells fun p mem s => ?_
    obtain ⟨r, inside, rfl⟩ := Option.map_eq_some_iff.mp mem
    rcases within r inside with earlier | new
    · exact (a.mine r earlier s).imp_left fun held => ⟨_, Option.mem_map_of_mem _ earlier, held⟩
    · exact .inr (new.2 s)
  mine r inside s := by
    by_cases later : r ∈ mid
    · rcases b.mine r later s with ⟨t, kind, held⟩ | new
      · rw [← kind, ← held]
        exact a.mine r inside t
      · exact .inr (Nat.le_trans (a.cells.size _) new)
    · rw [b.other r (Nat.lt_of_lt_of_le (a.known r inside) a.count) later]
      exact a.mine r inside s

theorem of_none (a : Spares none h h') (known : r.index < h.bodies.length) :
    Spares (some r) h h' where
  known q mem := by
    obtain rfl := Option.mem_some.mp mem
    exact known
  count := a.count
  other q there _ := a.other q there nofun
  cells := a.cells.imp _
  mine q mem s := by
    obtain rfl := Option.mem_some.mp mem
    rw [a.other _ known nofun]
    exact .inl ⟨s, rfl, rfl⟩

theorem put (known : r.index < h.bodies.length) (t : Turns (some (h.body r)) h h' o) :
    Spares (some r) h (h'.setBody r o) where
  known q mem := by
    obtain rfl := Option.mem_some.mp mem
    exact known
  count := Nat.le_of_eq (t.count_setBody r).symm
  other q _ unused := t.setBody_of_ne fun same => unused (same ▸ rfl)
  cells := t.frame.with_bodies _
  mine q mem s := by
    obtain rfl := Option.mem_some.mp mem
    rw [t.setBody_self known]
    refine (t.mine s).imp_left ?_
    rintro ⟨b, held, at_b⟩
    obtain rfl := Option.mem_some.mp held
    exact at_b

theorem drop (t : Turns none h h' o) : Spares none h h' where
  known := nofun
  count := Nat.le_of_eq t.count.symm
  other q _ _ := t.body q
  cells := t.frame
  mine := nofun

theorem add (t : Turns none h h' o) : Spares none h (h'.addBody o).2 where
  known := nofun
  count := t.count_addBody ▸ Nat.le_succ _
  other _ there _ := t.addBody_of_lt there
  cells := t.frame.with_bodies _
  mine := nofun

end Spares

namespace Becomes

theorem refl (apart : h.Apart) (known : ∀ r ∈ used, r.index < h.bodies.length) :
    Becomes used h h.store h := ⟨apart, rfl, .refl known⟩

theorem of_none (b : Becomes none h s h') (known : r.index < h.bodies.length) :
    Becomes (some r) h s h' := ⟨b.apart, b.shows, b.spares.of_none known⟩

theorem trans (a : Becomes used h s h') (b : Becomes used h' s' h'') : Becomes used h s' h'' :=
  ⟨b.apart, b.shows, a.spares.trans b.spares fun _ => .inl⟩

/-- A builder that was there has been used. -/
theorem put (apart : h.Apart) (known : r.index < h.bodies.length)
    (t : Turns (some (h.body r)) h h' o) :
    Becomes (some r) h (h.store.set r (h'.view o)) (h'.setBody r o) :=
  ⟨apart.put known t, store_put apart known t, .put known t⟩

/-- What was made beside the builders is given up. -/
theorem drop (apart : h.Apart) (t : Turns none h h' o) : Becomes none h h.store h' :=
  ⟨apart.drop t, store_of_frame apart t.bodies t.frame, .drop t⟩

/-- A new builder has been added. -/
theorem add (apart : h.Apart) (t : Turns none h h' o) :
    Becomes none h (h.store.add (h'.view o)).2 (h'.addBody o).2 := by
  refine ⟨apart.add t, ?_, .add t⟩
  rw [← store_of_frame apart t.bodies t.frame]
  exact congrArg Store.mk List.map_append

end Becomes

end Heap

end DocumentSearch
