import DocumentSearch.Proofs.Object.Clauses
import DocumentSearch.Proofs.Object.Heaps

/-!
# Copies of builders as objects

A new builder gets new objects only, so nothing that is done with it is seen at one that was there.
A copy has the addresses of the clauses of the builder that it is made of, in lists of its own.
-/
namespace DocumentSearch

theorem Slot.mem_all (s : Slot) : s ∈ Slot.all := by
  cases s with
  | bucket k => cases k <;> decide
  | _ => decide

namespace Heap

variable {base : Option Body} {h h' : Heap} {o p : Body} {contents : (s : Slot) → s.kind.Content}

/-- Some of the slots of a builder have been given new objects. -/
structure Filled (h : Heap) (o : Body) (contents : (s : Slot) → s.kind.Content)
    (filled : Slot → Prop) (r : Body × Heap) : Prop where
  bodies : r.2.bodies = h.bodies
  frame : Frame none h r.2
  clauses : r.2.size .clause = h.size .clause
  sound : r.2.Sound
  rest : r.1 = { o with slots := r.1.slots }
  new : ∀ s, filled s → h.size s.kind ≤ r.1.slots s ∧ r.1.slots s < r.2.size s.kind
  holds : ∀ s, filled s → r.2.own r.1 s = contents s
  distinct : ∀ s t, filled s → filled t → s.kind = t.kind → r.1.slots s = r.1.slots t → s = t

namespace Filled

theorem start (sound : h.Sound) (o : Body) (contents : (s : Slot) → s.kind.Content) :
    Filled h o contents (fun _ => False) (o, h) :=
  ⟨rfl, .refl _ h, rfl, sound, rfl, nofun, nofun, nofun⟩

theorem renew {filled : Slot → Prop} {r : Body × Heap} (f : Filled h o contents filled r) (s : Slot)
    (fits : h.Fits s.kind (contents s)) :
    Filled h o contents (fun t => filled t ∨ t = s) (r.2.renew r.1 s (contents s)) := by
  have step : Frame none r.2 (r.2.alloc s.kind (contents s)).2 := .alloc ..
  refine ⟨f.bodies, f.frame.later step, (size_alloc_of_ne s.kind_ne_clause.symm).trans f.clauses,
    f.sound.alloc (fits.mono f.frame.size), ?_, fun t mem => ?_, fun t mem => ?_,
    fun t u first second kinds shared => ?_⟩
  · rw [Heap.renew, f.rest]
  · by_cases same : t = s
    · subst same
      rw [slots_renew_self]
      exact ⟨f.frame.size _, size_alloc_self ▸ Nat.lt_succ_self _⟩
    · obtain ⟨after, there⟩ := f.new t (mem.resolve_right same)
      rw [slots_renew_of_ne same]
      exact ⟨after, Nat.lt_of_lt_of_le there (step.size _)⟩
  · by_cases same : t = s
    · subst same
      rw [own, slots_renew_self]
      exact get_alloc_self
    · have earlier := mem.resolve_right same
      rw [own, slots_renew_of_ne same, ← f.holds t earlier]
      exact step.kept (f.new t earlier).2
  · by_cases left : t = s <;> by_cases right : u = s
    · exact left.trans right.symm
    · subst left
      rw [slots_renew_self, slots_renew_of_ne right, kinds] at shared
      exact absurd shared.symm (Nat.ne_of_lt (f.new u (second.resolve_right right)).2)
    · subst right
      rw [slots_renew_self, slots_renew_of_ne left, ← kinds] at shared
      exact absurd shared (Nat.ne_of_lt (f.new t (first.resolve_right left)).2)
    · rw [slots_renew_of_ne left, slots_renew_of_ne right] at shared
      exact f.distinct t u (first.resolve_right left) (second.resolve_right right) kinds shared

end Filled

theorem renewAll_filled (sound : h.Sound) (o : Body)
    (fits : ∀ s, h.Fits s.kind (contents s)) :
    Filled h o contents (fun _ => True) (h.renewAll o contents) := by
  -- The slots are filled one by one.
  have fold : ∀ (slots : List Slot) (filled : Slot → Prop) (r : Body × Heap),
      Filled h o contents filled r → Filled h o contents (fun t => filled t ∨ t ∈ slots)
        (slots.foldl (fun r s => r.2.renew r.1 s (contents s)) r) := by
    intro slots
    induction slots with
    | nil =>
      intro filled r f
      simpa using f
    | cons s slots ih =>
      intro filled r f
      have next := ih _ _ (f.renew s (fits s))
      simp only [or_assoc, ← List.mem_cons] at next
      exact next
  have all := fold Slot.all _ _ (.start sound o contents)
  simp only [Slot.mem_all, or_true] at all
  exact all

theorem Filled.turns {r : Body × Heap} (f : Filled h o contents (fun _ => True) r)
    (sound : h.Sound) : Turns none h r.2 r.1 where
  before := sound
  owners := nofun
  bodies := f.bodies
  frame := f.frame
  sound := f.sound
  owned := by
    refine ⟨fun s => (f.new s trivial).2, fun s t => f.distinct s t trivial trivial,
      fun a there => ?_⟩
    rw [f.clauses] at there
    rw [f.frame.kept there]
    exact Nat.ne_of_lt (Nat.lt_of_lt_of_le (sound .clause a there) (f.new .options trivial).1)
  mine s := .inr (f.new s trivial).1
  tables a there new := absurd (f.clauses ▸ there) (Nat.not_lt_of_le new)

theorem Filled.view {r : Body × Heap} (f : Filled h o contents (fun _ => True) r)
    (sound : h.Sound) (fits : ∀ s, h.Fits s.kind (contents s)) :
    r.2.view r.1 = o.builder fun s => h.seenAs s (contents s) := by
  have seen : r.2.seen r.1 = fun s => h.seenAs s (contents s) := by
    funext s
    rw [Heap.seen, f.holds s trivial]
    exact f.frame.seenAs sound (f.turns sound).owners (fits s)
  rw [Heap.view, seen, f.rest]
  rfl

/-! ## New builders and copies -/

theorem newBody_view (sound : h.Sound) (keyName : Value) :
    Turns none h (h.newBody keyName).2 (h.newBody keyName).1 ∧
      (h.newBody keyName).2.view (h.newBody keyName).1 = .blank keyName := by
  have fits : ∀ s : Slot, h.Fits s.kind s.kind.blank := by
    intro s
    cases s with
    | bucket => exact nofun
    | _ => trivial
  have filled := renewAll_filled sound (.blank keyName) fits
  exact ⟨filled.turns sound, filled.view sound fits⟩

theorem cloneBody_view (sound : h.Sound) (owned : h.Owns o) :
    Turns none h (h.cloneBody o).2 (h.cloneBody o).1 ∧
      (h.cloneBody o).2.view (h.cloneBody o).1 = (h.view o).clone ∧
      ∀ k, (h.cloneBody o).2.own (h.cloneBody o).1 (.bucket k) = h.own o (.bucket k) := by
  have fits : ∀ s : Slot, h.Fits s.kind (h.copied o s) := by
    intro s
    cases s with
    | bucket k => exact owned.fits sound (.bucket k)
    | _ => trivial
  have filled := renewAll_filled sound { o with cache := none } fits
  exact ⟨filled.turns sound, filled.view sound fits, fun k => filled.holds (.bucket k) trivial⟩

/-! ## Copies that do without something -/

theorem renew_view (t : Turns base h h' o) (s : Slot) (content : s.kind.Content)
    (fits : h'.Fits s.kind content) :
    Turns base h (h'.renew o s content).2 (h'.renew o s content).1 ∧
      (h'.renew o s content).2.view (h'.renew o s content).1 =
        o.builder (Function.update (h'.seen o) s (h'.seenAs s content)) := by
  refine ⟨t.renew s (admits_of_fits fits), ?_⟩
  rw [view, seen_renew t.sound t.owned s content fits]
  rfl

theorem reset_view (t : Turns base h h' o) (name : String) :
    h'.reset? o name = none ∧ (h'.view o).without? name = none ∨
      ∃ r, h'.reset? o name = some r ∧ Turns base h r.2 r.1 ∧
        (h'.view o).without? name = some (r.2.view r.1) := by
  have slot : ∀ (s : Slot) (content : s.kind.Content) (b : Builder),
      h'.Fits s.kind content → o.builder (Function.update (h'.seen o) s (h'.seenAs s content)) = b →
        ∃ r, some (h'.renew o s content) = some r ∧ Turns base h r.2 r.1 ∧
          some b = some (r.2.view r.1) := by
    rintro s content b fits rfl
    obtain ⟨turns, view⟩ := renew_view t s content fits
    exact ⟨_, rfl, turns, congrArg some view.symm⟩
  unfold reset? Builder.without?
  split
  · exact .inr (slot .columns [] _ trivial (Body.builder_columns ..))
  · exact .inr (slot (.bucket .query) [] _ nofun (Body.builder_emptied ..))
  · exact .inr (slot (.bucket .filter) [] _ nofun (Body.builder_emptied ..))
  · exact .inr (slot (.bucket .postFilter) [] _ nofun (Body.builder_emptied ..))
  · exact .inr (slot .aggregations [] _ trivial (Body.builder_aggregations ..))
  · exact .inr (slot .orders [] _ trivial (Body.builder_orders ..))
  · exact .inr ⟨_, rfl, t.of_slots rfl, rfl⟩
  · exact .inr ⟨_, rfl, t.of_slots rfl, rfl⟩
  · exact .inl ⟨rfl, by simp_all⟩

/-- A copy, or none if it is refused, with what is at all new in the heap. -/
def Copies (h : Heap) (x : Except Error Body × Heap) (y : Except Error Builder) : Prop :=
  ∃ o, Turns none h x.2 o ∧
    (x.1 = .ok o ∧ y = .ok (x.2.view o) ∨ ∃ e, x.1 = .error e ∧ y = .error e)

theorem Turns.copies (t : Turns none h h' o) : Copies h (.ok o, h') (.ok (h'.view o)) :=
  ⟨o, t, .inl ⟨rfl, rfl⟩⟩

theorem resetOne_view (t : Turns base h h' o) (name : Value) :
    (∃ e, h'.resetOne o name = .error e ∧ (h'.view o).resetOne name = .error e) ∨
      ∃ r, h'.resetOne o name = .ok r ∧ Turns base h r.2 r.1 ∧
        (h'.view o).resetOne name = .ok (r.2.view r.1) := by
  unfold resetOne Builder.resetOne
  cases name.asKey with
  | error e => exact .inl ⟨_, rfl, rfl⟩
  | ok name =>
    have related : name.string?.bind (h'.reset? o) = none ∧
          name.string?.bind (h'.view o).without? = none ∨
        ∃ r, name.string?.bind (h'.reset? o) = some r ∧ Turns base h r.2 r.1 ∧
          name.string?.bind (h'.view o).without? = some (r.2.view r.1) := by
      cases name.string? with
      | none => exact .inl ⟨rfl, rfl⟩
      | some field => exact reset_view t field
    simp only [liftM, monadLift, MonadLift.monadLift, Misuse.lift, bind, Except.bind]
    rcases related with ⟨here, there⟩ | ⟨r, here, turns, there⟩
    · rw [here, there]
      exact .inl ⟨_, rfl, rfl⟩
    · rw [here, there]
      exact .inr ⟨r, rfl, turns, rfl⟩

theorem resetAll_copies (t : Turns none h h' o) (names : List Value) :
    Copies h (h'.resetAll o names) (names.foldlM Builder.resetOne (h'.view o)) := by
  induction names generalizing h' o with
  | nil => exact ⟨o, t, .inl ⟨rfl, rfl⟩⟩
  | cons name names ih =>
    rw [resetAll, List.foldlM_cons]
    rcases resetOne_view t name with ⟨e, here, there⟩ | ⟨r, here, turns, there⟩
    · rw [here, there]
      exact ⟨o, t, .inr ⟨e, rfl, rfl⟩⟩
    · rw [here, there]
      exact ih turns

theorem cloneWithout_copies (sound : h.Sound) (owned : h.Owns o) (names : List Value) :
    Copies h (h.cloneWithout o names) ((h.view o).cloneWithout names) := by
  obtain ⟨turns, view, -⟩ := cloneBody_view sound owned
  have copies := resetAll_copies turns names
  rwa [view] at copies

theorem renew_columns (t : Turns base h h' o) (columns : List Value) :
    Turns base h (h'.renew o .columns columns).2 (h'.renew o .columns columns).1 ∧
      (h'.renew o .columns columns).2.view (h'.renew o .columns columns).1 =
        { h'.view o with columns := columns } := by
  obtain ⟨turns, view⟩ := renew_view t .columns columns trivial
  exact ⟨turns, view.trans (Body.builder_columns ..)⟩

theorem renew_orders (t : Turns base h h' o) :
    Turns base h (h'.renew o .orders []).2 (h'.renew o .orders []).1 ∧
      (h'.renew o .orders []).2.view (h'.renew o .orders []).1 =
        { h'.view o with orders := [] } := by
  obtain ⟨turns, view⟩ := renew_view t .orders [] trivial
  exact ⟨turns, view.trans (Body.builder_orders ..)⟩

theorem renew_bucket (t : Turns base h h' o) (k : Bucket) :
    Turns base h (h'.renew o (.bucket k) []).2 (h'.renew o (.bucket k) []).1 ∧
      (h'.renew o (.bucket k) []).2.view (h'.renew o (.bucket k) []).1 = (h'.view o).emptied k := by
  obtain ⟨turns, view⟩ := renew_view t (.bucket k) [] nofun
  exact ⟨turns, view.trans (Body.builder_emptied ..)⟩

theorem counter_view (sound : h.Sound) (owned : h.Owns o) :
    Turns none h (h.counter o).2 (h.counter o).1 ∧
      (h.counter o).2.view (h.counter o).1 =
        { (h.view o).clone with
          columns := []
          orders := []
          limit := some (.int 1)
          offset := 0 } := by
  obtain ⟨turns, view, -⟩ := cloneBody_view sound owned
  obtain ⟨first, columns⟩ := renew_columns turns []
  obtain ⟨second, orders⟩ := renew_orders first
  refine ⟨second.of_slots rfl, ?_⟩
  let cut : Builder → Builder := fun b => { b with limit := some (.int 1), offset := 0 }
  refine (congrArg cut orders).trans ?_
  rw [columns, view]

/-- What becomes of the copy is decided by the builders that were there. -/
theorem keyed_copies (apart : h.Apart) (owned : h.Owns o) (id : Value) :
    Copies h (h.keyed o id) ((h.view o).keyed h.store id) := by
  obtain ⟨turns, view, -⟩ := cloneBody_view apart.sound owned
  obtain ⟨first, wheres⟩ := renew_bucket turns .query
  obtain ⟨second, filters⟩ := renew_bucket first .filter
  obtain ⟨third, postFilters⟩ := renew_bucket second .postFilter
  have store := store_of_frame apart third.bodies third.frame
  rw [filters, wheres, view] at postFilters
  unfold keyed Builder.keyed
  dsimp only
  rw [store, show (h.view o).keyName = o.keyName from rfl]
  generalize Criterion.clauses h.store _ _ = made
  cases made with
  | error e => exact ⟨_, third, .inr ⟨e, rfl, rfl⟩⟩
  | ok clauses =>
    obtain ⟨placed, shown⟩ := place_view third.sound third.owned clauses
    refine ⟨_, third.trans placed, .inl ⟨rfl, ?_⟩⟩
    rw [shown, postFilters]
    rfl

end Heap

end DocumentSearch
