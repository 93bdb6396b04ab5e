import DocumentSearch.Heap.Action

/-!
# What is done to the objects of a heap

Whatever is done with a builder changes the objects in its own slots, and new ones, in their places,
and no other object. A builder whose objects are its own goes on having them for itself, and so does
every other one.
-/
namespace DocumentSearch

namespace Heap

variable {h : Heap} {kind k : ObjectKind} {a b : Address} {content : kind.Content}

/-! ## Single objects -/

@[simp] theorem size_write : (h.write kind a content).size k = h.size k := by
  by_cases same : k = kind
  · subst same
    simp [size, write]
  · simp [size, write, same]

theorem size_alloc_self : (h.alloc kind content).2.size kind = h.size kind + 1 := by
  simp [size, alloc]

theorem size_alloc_of_ne (other : k ≠ kind) : (h.alloc kind content).2.size k = h.size k := by
  simp [size, alloc, other]

theorem size_le_alloc (k : ObjectKind) : h.size k ≤ (h.alloc kind content).2.size k := by
  by_cases same : k = kind
  · subst same
    rw [size_alloc_self]
    exact Nat.le_succ _
  · exact Nat.le_of_eq (size_alloc_of_ne same).symm

theorem size_alloc_table {options : Entries} :
    (h.alloc .table options).2.size .clause = h.size .clause := size_alloc_of_ne nofun

theorem get_write_self (known : a < h.size kind) :
    (h.write kind a content).get kind a = content := by
  rw [size] at known
  simp [get, write, known]

theorem get_write_of_ne (other : k = kind → b ≠ a) :
    (h.write kind a content).get k b = h.get k b := by
  by_cases same : k = kind
  · subst same
    simp [get, write, List.getElem?_set_ne (other rfl).symm]
  · simp [get, write, same]

theorem slots_renew_self {o : Body} {s : Slot} {content : s.kind.Content} :
    (h.renew o s content).1.slots s = h.size s.kind := Function.update_self ..

theorem slots_renew_of_ne {o : Body} {s other : Slot} {content : s.kind.Content}
    (ne : other ≠ s) : (h.renew o s content).1.slots other = o.slots other :=
  Function.update_of_ne ne ..

theorem get_alloc_self : (h.alloc kind content).2.get kind (h.size kind) = content := by
  simp [get, alloc, size]

theorem get_alloc_of_lt (known : b < h.size k) :
    (h.alloc kind content).2.get k b = h.get k b := by
  by_cases same : k = kind
  · subst same
    rw [size] at known
    simp [get, alloc, List.getElem?_append_left known]
  · simp [get, alloc, same]

theorem lt_size_alloc (there : b < (h.alloc kind content).2.size k) :
    b < h.size k ∨ k = kind ∧ b = h.size k := by
  by_cases own : k = kind
  · subst own
    rw [size_alloc_self] at there
    exact (Nat.lt_succ_iff_lt_or_eq.mp there).imp id fun last => ⟨rfl, last⟩
  · rw [size_alloc_of_ne own] at there
    exact .inl there

end Heap

/-! ## Objects of their own -/

theorem Slot.kind_ne_clause (s : Slot) : s.kind ≠ .clause := by cases s <;> nofun

namespace Body

def At (o : Body) (kind : ObjectKind) (a : Address) : Prop :=
  ∃ s : Slot, s.kind = kind ∧ o.slots s = a

/-- Builders that have no object in common in their slots. -/
def Apart (o p : Body) : Prop := ∀ s t : Slot, s.kind = t.kind → o.slots s ≠ p.slots t

theorem Apart.symm {o p : Body} (apart : o.Apart p) : p.Apart o := fun s t same shared =>
  apart t s same.symm shared.symm

theorem not_at_clause (o : Body) (a : Address) : ¬o.At .clause a := fun ⟨s, kind, _⟩ =>
  s.kind_ne_clause kind

end Body

namespace Heap

/-- What an object refers to is there. -/
def Fits (h : Heap) : (kind : ObjectKind) → kind.Content → Prop
  | .clause, c => c.options < h.size .table
  | .clauses, addresses => ∀ a ∈ addresses, a < h.size .clause
  | _, _ => True

/-- Objects refer only to what is there. -/
def Sound (h : Heap) : Prop := ∀ kind, ∀ a < h.size kind, h.Fits kind (h.get kind a)

/-- A builder has different objects in its slots, and no clause has its options. -/
structure Owns (h : Heap) (o : Body) : Prop where
  known : ∀ s, o.slots s < h.size s.kind
  distinct : ∀ s t : Slot, s.kind = t.kind → o.slots s = o.slots t → s = t
  unshared : ∀ a < h.size .clause, (h.get .clause a).options ≠ o.slots .options

theorem Fits.mono {h h' : Heap} (size : ∀ k, h.size k ≤ h'.size k) {kind : ObjectKind}
    {content : kind.Content} (fits : h.Fits kind content) : h'.Fits kind content := by
  cases kind with
  | clause => exact Nat.lt_of_lt_of_le fits (size _)
  | clauses => exact fun a mem => Nat.lt_of_lt_of_le (fits a mem) (size _)
  | _ => trivial

theorem Owns.with_bodies {h : Heap} {o : Body} (owned : h.Owns o) (bodies : List Body) :
    Owns ⟨bodies, h.cells⟩ o := ⟨owned.known, owned.distinct, owned.unshared⟩

/-- A later heap in which at most the objects in the slots of one builder have changed. -/
structure Frame (base : Option Body) (h h' : Heap) : Prop where
  size : ∀ k, h.size k ≤ h'.size k
  same : ∀ k, ∀ a < h.size k, (∀ q ∈ base, ¬q.At k a) → h'.get k a = h.get k a

/-- What has been done to a heap with a builder, be it one that was there or a new one. -/
structure Turns (base : Option Body) (h h' : Heap) (o : Body) : Prop where
  before : h.Sound
  owners : ∀ q ∈ base, h.Owns q
  bodies : h'.bodies = h.bodies
  frame : Frame base h h'
  sound : h'.Sound
  owned : h'.Owns o
  mine : ∀ s, (∃ q ∈ base, q.At s.kind (o.slots s)) ∨ h.size s.kind ≤ o.slots s
  tables : ∀ a < h'.size .clause, h.size .clause ≤ a → h.size .table ≤ (h'.get .clause a).options

/-- What may become of an object: a list refers to clauses that are there, and a clause to options
that are new and not those of the builder. -/
def Admits (h h' : Heap) (o : Body) : (kind : ObjectKind) → kind.Content → Prop
  | .clause, c =>
    h.size .table ≤ c.options ∧ c.options < h'.size .table ∧ c.options ≠ o.slots .options
  | .clauses, addresses => ∀ a ∈ addresses, a < h'.size .clause
  | _, _ => True

theorem Admits.fits {h h' : Heap} {o : Body} {kind : ObjectKind} {content : kind.Content}
    (admits : h.Admits h' o kind content) : h'.Fits kind content := by
  cases kind with
  | clause => exact admits.2.1
  | clauses => exact admits
  | _ => trivial

theorem admits_of_fits {h h' : Heap} {o : Body} {s : Slot} {content : s.kind.Content}
    (fits : h'.Fits s.kind content) : h.Admits h' o s.kind content := by
  cases s <;> exact fits

section

variable {h h' : Heap} {o : Body} {kind : ObjectKind} {a : Address} {content : kind.Content}

theorem Sound.write (sound : h.Sound) (known : a < h.size kind) (fits : h.Fits kind content) :
    (h.write kind a content).Sound := by
  intro k b there
  have wider : ∀ k, h.size k ≤ (h.write kind a content).size k := fun k =>
    Nat.le_of_eq size_write.symm
  rw [size_write] at there
  by_cases own : k = kind ∧ b = a
  · obtain ⟨rfl, rfl⟩ := own
    rw [get_write_self there]
    exact fits.mono wider
  · rw [get_write_of_ne fun kinds places => own ⟨kinds, places⟩]
    exact (sound k b there).mono wider

theorem Sound.alloc (sound : h.Sound) (fits : h.Fits kind content) :
    (h.alloc kind content).2.Sound := by
  intro k b there
  rcases lt_size_alloc there with earlier | ⟨rfl, rfl⟩
  · rw [get_alloc_of_lt earlier]
    exact (sound k b earlier).mono size_le_alloc
  · rw [get_alloc_self]
    exact fits.mono size_le_alloc

theorem Owns.write (owned : h'.Owns o) (admits : h.Admits h' o kind content) :
    (h'.write kind a content).Owns o where
  known s := by
    rw [size_write]
    exact owned.known s
  distinct := owned.distinct
  unshared b there := by
    rw [size_write] at there
    by_cases own : ObjectKind.clause = kind ∧ b = a
    · obtain ⟨rfl, rfl⟩ := own
      rw [get_write_self there]
      exact admits.2.2
    · rw [get_write_of_ne fun kinds places => own ⟨kinds, places⟩]
      exact owned.unshared b there

theorem Owns.alloc (owned : h'.Owns o) (admits : h.Admits h' o kind content) :
    (h'.alloc kind content).2.Owns o where
  known s := Nat.lt_of_lt_of_le (owned.known s) (size_le_alloc _)
  distinct := owned.distinct
  unshared b there := by
    rcases lt_size_alloc there with earlier | ⟨rfl, rfl⟩
    · rw [get_alloc_of_lt earlier]
      exact owned.unshared b earlier
    · rw [get_alloc_self]
      exact admits.2.2

theorem Owns.renew (owned : h'.Owns o) (sound : h'.Sound) {s : Slot} {content : s.kind.Content}
    (admits : h.Admits h' o s.kind content) :
    (h'.renew o s content).2.Owns (h'.renew o s content).1 := by
  have after := owned.alloc admits
  have old : ∀ other, o.slots other ≠ h'.size other.kind := fun other =>
    Nat.ne_of_lt (owned.known other)
  refine ⟨fun other => ?_, fun one other kinds shared => ?_, fun a there => ?_⟩
  · by_cases same : other = s
    · subst same
      rw [slots_renew_self, Heap.renew, size_alloc_self]
      exact Nat.lt_succ_self _
    · rw [slots_renew_of_ne same]
      exact after.known other
  · by_cases first : one = s <;> by_cases second : other = s
    · exact first.trans second.symm
    · subst first
      rw [slots_renew_self, slots_renew_of_ne second] at shared
      exact absurd (kinds ▸ shared.symm) (old other)
    · subst second
      rw [slots_renew_self, slots_renew_of_ne first] at shared
      exact absurd (kinds ▸ shared) (old one)
    · rw [slots_renew_of_ne first, slots_renew_of_ne second] at shared
      exact owned.distinct one other kinds shared
  · by_cases same : Slot.options = s
    · subst same
      rw [slots_renew_self]
      have clauses : a < h'.size .clause := by
        rwa [Heap.renew, size_alloc_table] at there
      rw [Heap.renew, get_alloc_of_lt clauses]
      exact Nat.ne_of_lt (sound .clause a clauses)
    · rw [slots_renew_of_ne same]
      exact after.unshared a there

end

namespace Frame

variable {base : Option Body} {h h' h'' : Heap} {o p : Body}

theorem refl (base : Option Body) (h : Heap) : Frame base h h :=
  ⟨fun _ => Nat.le_refl _, fun _ _ _ _ => rfl⟩

theorem with_bodies (f : Frame base h h') (bodies : List Body) :
    Frame base h ⟨bodies, h'.cells⟩ := ⟨f.size, f.same⟩

theorem kept (f : Frame none h h') {k : ObjectKind} {a : Address} (known : a < h.size k) :
    h'.get k a = h.get k a := f.same k a known nofun

/-- A builder has no clause in a slot, only lists of clauses. -/
theorem clause (f : Frame base h h') {a : Address} (known : a < h.size .clause) :
    h'.get .clause a = h.get .clause a := f.same .clause a known fun q _ => q.not_at_clause a

theorem imp (f : Frame none h h') (base : Option Body) : Frame base h h' :=
  ⟨f.size, fun _ _ known _ => f.kept known⟩

/-- What the later changes are made to are objects of the same builder, or new ones. -/
theorem trans {mid : Option Body} (f : Frame base h h') (g : Frame mid h' h'')
    (mine : ∀ q ∈ mid, ∀ s, (∃ b ∈ base, b.At s.kind (q.slots s)) ∨ h.size s.kind ≤ q.slots s) :
    Frame base h h'' where
  size k := Nat.le_trans (f.size k) (g.size k)
  same k a known free := by
    rw [← f.same k a known free]
    refine g.same k a (Nat.lt_of_lt_of_le known (f.size k)) ?_
    rintro q mem ⟨s, rfl, rfl⟩
    rcases mine q mem s with ⟨b, inside, held⟩ | new
    · exact free b inside held
    · exact Nat.not_lt_of_le new known

theorem later (f : Frame base h h') (g : Frame none h' h'') : Frame base h h'' := f.trans g nofun

theorem write (f : Frame base h h') {kind : ObjectKind} {a : Address} {content : kind.Content}
    (mine : (∃ q ∈ base, q.At kind a) ∨ h.size kind ≤ a) :
    Frame base h (h'.write kind a content) where
  size k := by
    rw [size_write]
    exact f.size k
  same k b there free := by
    rw [← f.same k b there free]
    refine get_write_of_ne ?_
    rintro rfl rfl
    rcases mine with ⟨q, mem, held⟩ | new
    · exact free q mem held
    · exact Nat.not_lt_of_le new there

theorem alloc (h : Heap) (kind : ObjectKind) (content : kind.Content) :
    Frame none h (h.alloc kind content).2 :=
  ⟨size_le_alloc, fun _ _ known _ => get_alloc_of_lt known⟩

/-- No list, and no table of a clause, is in two places. So a clause is as it was. -/
theorem clauseAt (f : Frame base h h') (sound : h.Sound) (owners : ∀ q ∈ base, h.Owns q)
    {a : Address} (known : a < h.size .clause) : h'.clauseAt a = h.clauseAt a := by
  have cell := f.clause known
  have options : h'.get .table (h.get .clause a).options =
      h.get .table (h.get .clause a).options := by
    refine f.same _ _ (sound .clause a known) ?_
    rintro q mem ⟨s, kind, held⟩
    cases s with
    | options => exact (owners q mem).unshared a known held.symm
    | _ => cases kind
  simp only [Heap.clauseAt, cell, options]

theorem seenAs (f : Frame base h h') (sound : h.Sound) (owners : ∀ q ∈ base, h.Owns q) {s : Slot}
    {content : s.kind.Content} (fits : h.Fits s.kind content) :
    h'.seenAs s content = h.seenAs s content := by
  cases s with
  | bucket k => exact List.map_congr_left fun a mem => f.clauseAt sound owners (fits a mem)
  | _ => rfl

/-- What a builder has is as it was if it has nothing in common with the one that was used. -/
theorem view_of_apart (f : Frame base h h') (sound : h.Sound) (owners : ∀ q ∈ base, h.Owns q)
    (owned : h.Owns p) (apart : ∀ q ∈ base, q.Apart p) : h'.view p = h.view p := by
  have seen : h'.seen p = h.seen p := by
    funext s
    have own : h'.own p s = h.own p s := by
      refine f.same _ _ (owned.known s) ?_
      rintro q mem ⟨t, kind, held⟩
      exact apart q mem t s kind held
    have fits : h.Fits s.kind (h.own p s) := sound _ _ (owned.known s)
    rw [Heap.seen, own, f.seenAs sound owners fits]
    rfl
  rw [view, seen]
  rfl

end Frame

namespace Turns

variable {base : Option Body} {h h' : Heap} {o p : Body} {kind : ObjectKind} {a : Address}
  {content : kind.Content}

theorem refl (sound : h.Sound) (owned : h.Owns o) : Turns (some o) h h o where
  before := sound
  owners q mem := by
    obtain rfl := Option.mem_some.mp mem
    exact owned
  bodies := rfl
  frame := .refl _ h
  sound := sound
  owned := owned
  mine s := .inl ⟨o, rfl, s, rfl, rfl⟩
  tables a known new := absurd known (Nat.not_lt_of_le new)

theorem of_slots (t : Turns base h h' o) (same : p.slots = o.slots) : Turns base h h' p := by
  refine ⟨t.before, t.owners, t.bodies, t.frame, t.sound, ?_, ?_, t.tables⟩
  · exact ⟨same ▸ t.owned.known, same ▸ t.owned.distinct, same ▸ t.owned.unshared⟩
  · exact same ▸ t.mine

/-- An object of the builder, or a new one, may be changed in its place. -/
theorem write (t : Turns base h h' o) (known : a < h'.size kind)
    (mine : (∃ q ∈ base, q.At kind a) ∨ h.size kind ≤ a) (admits : h.Admits h' o kind content) :
    Turns base h (h'.write kind a content) o where
  before := t.before
  owners := t.owners
  bodies := t.bodies
  frame := t.frame.write mine
  sound := t.sound.write known admits.fits
  owned := t.owned.write admits
  mine := t.mine
  tables b there new := by
    rw [size_write] at there
    by_cases own : ObjectKind.clause = kind ∧ b = a
    · obtain ⟨rfl, rfl⟩ := own
      rw [get_write_self there]
      exact admits.1
    · rw [get_write_of_ne fun kinds places => own ⟨kinds, places⟩]
      exact t.tables b there new

theorem alloc (t : Turns base h h' o) (admits : h.Admits h' o kind content) :
    Turns base h (h'.alloc kind content).2 o := by
  refine ⟨t.before, t.owners, t.bodies, t.frame.later (.alloc h' kind content),
    t.sound.alloc admits.fits, t.owned.alloc admits, t.mine, fun b there new => ?_⟩
  rcases lt_size_alloc there with earlier | ⟨rfl, rfl⟩
  · rw [get_alloc_of_lt earlier]
    exact t.tables b earlier new
  · rw [get_alloc_self]
    exact admits.1

/-- A slot of the builder may refer to a new object instead. -/
theorem renew (t : Turns base h h' o) (s : Slot) {content : s.kind.Content}
    (admits : h.Admits h' o s.kind content) :
    Turns base h (h'.renew o s content).2 (h'.renew o s content).1 := by
  have after := t.alloc admits
  refine ⟨t.before, t.owners, t.bodies, after.frame, after.sound, t.owned.renew t.sound admits,
    fun other => ?_, after.tables⟩
  by_cases same : other = s
  · subst same
    rw [slots_renew_self]
    exact .inr (t.frame.size _)
  · rw [slots_renew_of_ne same]
    exact t.mine other

theorem trans {h'' : Heap} (t : Turns base h h' o) (u : Turns (some o) h' h'' p) :
    Turns base h h'' p where
  before := t.before
  owners := t.owners
  bodies := u.bodies.trans t.bodies
  frame := by
    refine t.frame.trans u.frame fun q mem => ?_
    obtain rfl := Option.mem_some.mp mem
    exact t.mine
  sound := u.sound
  owned := u.owned
  mine s := by
    rcases u.mine s with ⟨q, mem, place, kind, held⟩ | new
    · obtain rfl := Option.mem_some.mp mem
      rw [← kind, ← held]
      exact t.mine place
    · exact .inr (Nat.le_trans (t.frame.size _) new)
  tables a known new := by
    by_cases earlier : a < h'.size .clause
    · rw [u.frame.clause earlier]
      exact t.tables a earlier new
    · exact Nat.le_trans (t.frame.size _) (u.tables a known (Nat.le_of_not_lt earlier))

theorem owns (t : Turns base h h' o) (other : h.Owns p) : h'.Owns p where
  known s := Nat.lt_of_lt_of_le (other.known s) (t.frame.size _)
  distinct := other.distinct
  unshared a known := by
    by_cases earlier : a < h.size .clause
    · rw [t.frame.clause earlier]
      exact other.unshared a earlier
    · have new := t.tables a known (Nat.le_of_not_lt earlier)
      exact (Nat.ne_of_lt (Nat.lt_of_lt_of_le (other.known .options) new)).symm

theorem apart (t : Turns base h h' o) (other : h.Owns p) (apart : ∀ q ∈ base, q.Apart p) :
    o.Apart p := by
  intro s r kinds shared
  rcases t.mine s with ⟨q, mem, place, kind, held⟩ | new
  · exact apart q mem place r (kind.trans kinds) (held.trans shared)
  · rw [shared, kinds] at new
    exact Nat.not_lt_of_le new (other.known r)

end Turns

end Heap

end DocumentSearch
