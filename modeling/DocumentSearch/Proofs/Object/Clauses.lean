import DocumentSearch.Proofs.Object.Values

/-!
# Clauses as objects

A list gains addresses behind those that it has. Clauses that a call makes are at addresses where
there was nothing before, so no other list has them while the call still changes them.
-/
namespace DocumentSearch

namespace Builder

theorem placeFiltered_eq_grown (b : Builder) {target : Bucket} (other : target ≠ .query)
    (clauses : List (Bucket × Clause)) :
    let placed := fun k => (clauses.filter (fun c => c.1 = k)).map Prod.snd
    b.placeFiltered target clauses = b.grown fun k =>
      if k = .query then [] else if k = target then placed k ++ placed .query else placed k := by
  intro placed
  have rest : ∀ k, (((clauses.filter (fun c => c.1 ≠ .query)).filter (fun c => c.1 = k)).map
      Prod.snd) = if k = .query then [] else placed k := by
    intro k
    rw [List.filter_filter]
    by_cases query : k = .query
    · subst query
      simp
    · rw [if_neg query]
      congr 1
      refine List.filter_congr fun c _ => ?_
      by_cases same : c.1 = k <;> simp [same, query]
  rw [placeFiltered, place_eq_grown]
  simp only [rest]
  cases target with
  | query => exact absurd rfl other
  | filter | postFilter => simp [append, grown, placed]

end Builder

namespace Heap

variable {base : Option Body} {h h' h'' : Heap} {o : Body} {added more : Bucket → List Address}

/-- What a builder has in its buckets more than before. -/
structure Gains (h h' : Heap) (o : Body) (added : Bucket → List Address) : Prop where
  turns : Turns (some o) h h' o
  rest : ∀ s, (∀ k, s ≠ .bucket k) → h'.own o s = h.own o s
  grown : ∀ k, h'.own o (.bucket k) = h.own o (.bucket k) ++ added k

namespace Gains

theorem refl (sound : h.Sound) (owned : h.Owns o) : Gains h h o fun _ => [] where
  turns := .refl sound owned
  rest _ _ := rfl
  grown _ := (List.append_nil _).symm

theorem trans (g : Gains h h' o added) (k : Gains h' h'' o more) :
    Gains h h'' o fun b => added b ++ more b where
  turns := g.turns.trans k.turns
  rest s other := (k.rest s other).trans (g.rest s other)
  grown b := by rw [k.grown, g.grown, List.append_assoc]

/-- The builder as a value has the clauses that are at the new addresses. -/
theorem view (g : Gains h h' o added) :
    h'.view o = (h.view o).grown fun k => (added k).map h'.clauseAt := by
  have bucket : ∀ k, h'.seen o (.bucket k) =
      h.seen o (.bucket k) ++ (added k).map h'.clauseAt := by
    intro k
    have before := g.turns.frame.seenAs g.turns.before g.turns.owners
      ((g.turns.owners o rfl).fits g.turns.before (.bucket k))
    rw [seen, g.grown, seen, ← before]
    exact List.map_append
  have rest : ∀ s, (∀ k, s ≠ .bucket k) → h'.seen o s = h'.seenAs s (h.own o s) := fun s other => by
    rw [seen, g.rest s other]
  rw [Heap.view, Heap.view, Body.builder, Body.builder]
  simp (disch := simp) only [bucket, rest]
  rfl

theorem known (g : Gains h h' o added) {k : Bucket} {a : Address} (mem : a ∈ added k) :
    a < h'.size .clause := by
  have fits : ∀ a ∈ h'.own o (.bucket k), a < h'.size .clause :=
    g.turns.owned.fits g.turns.sound (.bucket k)
  exact fits a (g.grown k ▸ List.mem_append_right _ mem)

end Gains

theorem append_gains (sound : h.Sound) (owned : h.Owns o) (k : Bucket) {addresses : List Address}
    (known : ∀ a ∈ addresses, a < h.size .clause) :
    Gains h (h.append o k addresses) o fun b => if b = k then addresses else [] := by
  have fits : h.Fits (Slot.bucket k).kind (h.own o (.bucket k) ++ addresses) := fun a mem =>
    (List.mem_append.mp mem).elim (owned.fits sound (.bucket k) a) (known a)
  have own := own_change owned (.bucket k) (· ++ addresses)
  refine ⟨(Turns.refl sound owned).change _ _ fits, fun s other => ?_, fun b => ?_⟩
  · rw [append, own, Function.update_of_ne (other k)]
  · rw [append, own]
    by_cases same : b = k
    · subst same
      rw [Function.update_self, if_pos rfl]
    · rw [Function.update_of_ne (by simpa using same), if_neg same, List.append_nil]

/-! ## Clauses that a call makes -/

theorem addClause_gains (sound : h.Sound) (owned : h.Owns o) (k : Bucket) (c : Clause) :
    let made := h.addClause c
    Gains h (made.2.append o k [made.1]) o (fun b => if b = k then [made.1] else []) ∧
      (made.2.append o k [made.1]).clauseAt made.1 = c := by
  intro made
  have turns : Turns (some o) h made.2 o := (Turns.refl sound owned).addClause c
  have known : made.1 < made.2.size .clause := by
    rw [addClause_fst, size_addClause]
    exact Nat.lt_succ_self _
  have own : made.2.own o = h.own o := own_of_frame (.addClause h c) owned
  have appended := append_gains turns.sound turns.owned k (List.forall_mem_singleton.mpr known)
  refine ⟨⟨turns.trans appended.turns, fun s other => ?_, fun b => ?_⟩, ?_⟩
  · rw [appended.rest s other, own]
  · rw [appended.grown b, own]
  · rw [appended.turns.frame.clauseAt turns.sound appended.turns.owners known]
    exact clauseAt_addClause h c

/-- Placed clauses are new objects behind those that the buckets had. -/
theorem place_gains (sound : h.Sound) (owned : h.Owns o) (clauses : List (Bucket × Clause)) :
    ∃ added, Gains h (h.place o clauses) o added ∧ (∀ k, ∀ a ∈ added k, h.size .clause ≤ a) ∧
      ∀ k, (added k).map (h.place o clauses).clauseAt =
        (clauses.filter (fun c => c.1 = k)).map Prod.snd := by
  induction clauses generalizing h with
  | nil => exact ⟨_, .refl sound owned, nofun, fun _ => rfl⟩
  | cons c clauses ih =>
    obtain ⟨first, shown⟩ := addClause_gains sound owned c.1 c.2
    obtain ⟨added, gains, new, shows⟩ := ih first.turns.sound first.turns.owned
    have own : (h.addClause c.2).1 < ((h.addClause c.2).2.append o c.1 [(h.addClause c.2).1]).size
        .clause := first.known (k := c.1) (by simp)
    have last := gains.turns.frame.clauseAt first.turns.sound gains.turns.owners own
    refine ⟨_, first.trans gains, fun k a mem => ?_, fun k => ?_⟩
    · rcases List.mem_append.mp mem with mem | mem
      · by_cases same : k = c.1
        · rw [if_pos same, List.mem_singleton, addClause_fst] at mem
          exact Nat.le_of_eq mem.symm
        · rw [if_neg same] at mem
          cases mem
      · exact Nat.le_trans (first.turns.frame.size _) (new k a mem)
    · change List.map (place _ o clauses).clauseAt _ = _
      rw [List.map_append, shows k]
      by_cases same : k = c.1
      · subst same
        simp [last, shown]
      · simp [same, Ne.symm same]

theorem place_view (sound : h.Sound) (owned : h.Owns o) (clauses : List (Bucket × Clause)) :
    Turns (some o) h (h.place o clauses) o ∧
      (h.place o clauses).view o = (h.view o).place clauses := by
  obtain ⟨added, gains, -, shows⟩ := place_gains sound owned clauses
  refine ⟨gains.turns, ?_⟩
  rw [gains.view, Builder.place_eq_grown]
  simp only [shows]

/-! ## Clauses that are given options -/

theorem setOptions_turns (turns : Turns base h h' o) (options : Entries) {a : Address}
    (new : h.size .clause ≤ a) (known : a < h'.size .clause) :
    Turns base h (h'.setOptions options a) o := by
  have table : Turns base h (h'.alloc .table options).2 o := turns.alloc trivial
  refine table.write ?_ (.inr new) ⟨turns.frame.size _, ?_, ?_⟩
  · rwa [size_alloc_table]
  · rw [size_alloc_self]
    exact Nat.lt_succ_self _
  · exact (Nat.ne_of_lt (turns.owned.known .options)).symm

theorem own_setOptions (owned : h.Owns o) (options : Entries) (a : Address) :
    (h.setOptions options a).own o = h.own o := by
  funext s
  have frame := Frame.alloc h .table options
  exact (get_write_of_ne fun kind => absurd kind s.kind_ne_clause).trans
    (frame.kept (owned.known s))

theorem size_setOptions (h : Heap) (options : Entries) (a : Address) :
    (h.setOptions options a).size .clause = h.size .clause := size_write.trans size_alloc_table

theorem clauseAt_setOptions (sound : h.Sound) (options : Entries) {a b : Address}
    (known : b < h.size .clause) :
    (h.setOptions options a).clauseAt b =
      if b = a then { h.clauseAt b with options := options } else h.clauseAt b := by
  have frame := Frame.alloc h .table options
  have table : ∀ place, (h.setOptions options a).get .table place =
      (h.alloc .table options).2.get .table place := fun place => get_write_of_ne nofun
  have there : b < (h.alloc .table options).2.size .clause :=
    Nat.lt_of_lt_of_le known (frame.size _)
  by_cases same : b = a
  · subst same
    have cell : (h.setOptions options b).get .clause b =
        { h.get .clause b with options := h.size .table } := get_write_self there
    have new : (h.alloc .table options).2.get .table (h.size .table) = options := get_alloc_self
    rw [if_pos rfl, clauseAt, cell, table, new]
    rfl
  · have cell : (h.setOptions options a).get .clause b = h.get .clause b :=
      (get_write_of_ne fun _ => same).trans (frame.kept known)
    rw [if_neg same, clauseAt, cell, table, frame.kept (sound .clause b known)]
    rfl

theorem giveOptions (turns : Turns base h h' o) (options : Entries) {addresses : List Address}
    (new : ∀ a ∈ addresses, h.size .clause ≤ a ∧ a < h'.size .clause) :
    let given := addresses.foldl (setOptions · options) h'
    Turns base h given o ∧ given.own o = h'.own o ∧
      ∀ a < h'.size .clause, given.clauseAt a =
        if a ∈ addresses then { h'.clauseAt a with options := options } else h'.clauseAt a := by
  induction addresses generalizing h' with
  | nil => exact ⟨turns, rfl, fun a _ => by simp⟩
  | cons first addresses ih =>
    obtain ⟨firstNew, firstKnown⟩ := new first List.mem_cons_self
    have size := size_setOptions h' options first
    obtain ⟨all, own, shows⟩ := ih (setOptions_turns turns options firstNew firstKnown)
      fun a mem => by
        rw [size]
        exact new a (List.mem_cons_of_mem _ mem)
    refine ⟨all, own.trans (own_setOptions turns.owned options first), fun a known => ?_⟩
    rw [List.foldl_cons, shows a (by rwa [size]), clauseAt_setOptions turns.sound options known]
    by_cases same : a = first <;> by_cases later : a ∈ addresses <;> simp [same, later]

end Heap

end DocumentSearch
