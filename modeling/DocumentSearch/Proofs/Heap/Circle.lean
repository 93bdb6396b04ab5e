import DocumentSearch.Proofs.Heap.Depth
import DocumentSearch.Proofs.Heap.Run

/-!
# Builders inside themselves

A builder may be handed to any call, also to one on a builder inside it, and nothing looks where it
leads. So builders can come to be inside themselves. They do exactly if some call is handed a
builder that leads to the one that the call is on, and puts it where that one leads to; references
are never taken away.
-/
namespace DocumentSearch

namespace Store

/-- No builder leads back to itself. -/
def Acyclic (s : Store) : Prop := ∀ x, ¬s.Leads x x

def Grounded (s : Store) : Prop := ∀ x y, s.Refers x y → y.index < s.size

/-- One of the builders that were handed to another one leads to it, or is it, and is now led to. -/
def Ties (s : Store) (target : Ref) (handed : List Ref) (t : Store) : Prop :=
  ∃ r ∈ handed, Relation.ReflTransGen s.Refers r target ∧ t.Leads target r

section Growth

variable {s t : Store} {x y target : Ref} {handed : List Ref}
  (grows : s.GrowsAt target (fun r => r ∈ handed ∨ r ∈ (s.get target).refs) t)

include grows

theorem refers_of_grows (h : s.Refers x y) : t.Refers x y := by
  by_cases own : x = target
  · subst own
    exact grows.own.refs_subset h
  · rw [Refers, grows.spares.other x (known_of_refers h) own]
    exact h

theorem refers_cases (h : t.Refers x y) : s.Refers x y ∨ (x = target ∨ s.Made t x) ∧
    (y ∈ handed ∨ s.Refers target y ∨ s.Made t y ∧ (x = target ∨ x.index < y.index)) := by
  by_cases earlier : x.index < s.size
  · by_cases own : x = target
    · subst own
      rcases grows.own.refs_of h with old | (given | again) | made
      · exact .inl old
      · exact .inr ⟨.inl rfl, .inl given⟩
      · exact .inl again
      · exact .inr ⟨.inl rfl, .inr (.inr ⟨made, .inl rfl⟩)⟩
    · rw [Refers, grows.spares.other x earlier own] at h
      exact .inl h
  · have new : s.Made t x := ⟨Nat.le_of_not_lt earlier, known_of_refers h⟩
    refine .inr ⟨.inr new, ?_⟩
    rcases grows.made x new y h with (given | old) | ⟨made, above⟩
    · exact .inl given
    · exact .inr (.inl old)
    · exact .inr (.inr ⟨made, .inr above⟩)

/-- What leads to the builder did so before, or leads to what was handed over and led there. -/
theorem leads_target (known : target.index < s.size) (acyclic : s.Acyclic)
    (h : t.Leads x target) :
    s.Leads x target ∨
      ∃ r ∈ handed, Relation.ReflTransGen s.Refers r target ∧ Relation.ReflTransGen t.Refers x r := by
  have step : ∀ {x y}, t.Refers x y → Relation.ReflTransGen s.Refers y target →
      s.Leads x target ∨ ∃ r ∈ handed, Relation.ReflTransGen s.Refers r target ∧
        Relation.ReflTransGen t.Refers x r := by
    intro x y refers back
    rcases refers_cases grows refers with old | ⟨-, given | old | ⟨made, -⟩⟩
    · exact .inl (.head' old back)
    · exact .inr ⟨y, given, back, .single refers⟩
    · exact absurd (.head' old back) (acyclic target)
    · -- a builder that was not there led nowhere
      refine absurd made.1 (Nat.not_le_of_gt ?_)
      rcases back.cases_head with rfl | ⟨z, first, -⟩
      · exact known
      · exact known_of_refers first
  induction h using Relation.TransGen.head_induction_on with
  | single refers => exact step refers .refl
  | head refers _ ih =>
    rcases ih with old | ⟨r, given, back, there⟩
    · exact step refers old.to_reflTransGen
    · exact .inr ⟨r, given, back, .head refers there⟩

/-- Any other builder refers to what it did, or was made, and then refers to what was there or was
made after it. -/
theorem refers_elsewhere (given : ∀ r ∈ handed, r.index < s.size) (grounded : s.Grounded)
    (other : x ≠ target) (h : t.Refers x y) :
    s.Refers x y ∨ s.Made t x ∧ (y.index < s.size ∨ s.Made t y ∧ x.index < y.index) := by
  rcases refers_cases grows h with old | ⟨own | new, toward⟩
  · exact .inl old
  · exact absurd own other
  · refine .inr ⟨new, ?_⟩
    rcases toward with handed | old | ⟨made, own | above⟩
    · exact .inl (given y handed)
    · exact .inl (grounded target y old)
    · exact absurd own other
    · exact .inr ⟨made, above⟩

/-- A circle that is new goes through the builder. -/
theorem leads_self_target (given : ∀ r ∈ handed, r.index < s.size) (grounded : s.Grounded)
    (acyclic : s.Acyclic) (circle : t.Leads x x) : t.Leads target target := by
  by_contra apart
  have besides : ∀ {y}, t.Leads y y → y ≠ target := by
    rintro y circle rfl
    exact apart circle
  -- elsewhere a way stays among the builders that were there, or leads up among those made
  have along : ∀ {y}, t.Leads x y → Relation.ReflTransGen t.Refers y x → s.Leads x y ∨
      s.Made t x ∧ (y.index < s.size ∨ s.Made t y ∧ x.index < y.index) := by
    intro y leads
    induction leads with
    | single refers =>
      intro _
      exact (refers_elsewhere grows given grounded (besides circle) refers).imp_left .single
    | @tail y z before refers ih =>
      intro back
      have sofar := ih (.head refers back)
      have other : y ≠ target :=
        besides (Relation.TransGen.trans_right (.head refers back) before)
      rcases refers_elsewhere grows given grounded other refers with old | ⟨new, toward⟩
      · rcases sofar with leads | ⟨made, -⟩
        · exact .inl (leads.tail old)
        · exact .inr ⟨made, .inl (grounded y z old)⟩
      · rcases sofar with leads | ⟨made, earlier | ⟨-, above⟩⟩
        · obtain ⟨w, -, last⟩ := Relation.TransGen.tail'_iff.mp leads
          exact absurd new.1 (Nat.not_le_of_gt (grounded w y last))
        · exact absurd new.1 (Nat.not_le_of_gt earlier)
        · exact .inr ⟨made, toward.imp_right (.imp_right (Nat.lt_trans above))⟩
  rcases along circle .refl with old | ⟨made, earlier | ⟨-, above⟩⟩
  · exact acyclic x old
  · exact absurd made.1 (Nat.not_le_of_gt earlier)
  · exact Nat.lt_irrefl _ above

/-- Circles come of what is handed to the builder and leads to it. -/
theorem acyclic_iff (known : target.index < s.size) (given : ∀ r ∈ handed, r.index < s.size)
    (grounded : s.Grounded) : t.Acyclic ↔ s.Acyclic ∧ ¬s.Ties target handed t := by
  have keeps : ∀ x y, s.Refers x y → t.Refers x y := fun x y => refers_of_grows grows
  constructor
  · refine fun acyclic => ⟨fun x circle => acyclic x (Relation.TransGen.mono keeps x x circle), ?_⟩
    rintro ⟨r, -, back, there⟩
    exact acyclic target (.trans_left there (Relation.ReflTransGen.mono keeps _ _ back))
  · rintro ⟨acyclic, untied⟩ x circle
    have through := leads_self_target grows given grounded acyclic circle
    rcases leads_target grows known acyclic through with old | ⟨r, handed, back, there⟩
    · exact acyclic target old
    · refine untied ⟨r, handed, back, ?_⟩
      rcases Relation.reflTransGen_iff_eq_or_transGen.mp there with rfl | there
      · exact through
      · exact there

theorem grounded_of_grows (given : ∀ r ∈ handed, r.index < s.size) (grounded : s.Grounded) :
    t.Grounded := by
  intro x y refers
  have earlier : y.index < s.size → y.index < t.size := fun known =>
    Nat.lt_of_lt_of_le known grows.spares.size
  rcases refers_cases grows refers with old | ⟨-, handed | old | ⟨made, -⟩⟩
  · exact earlier (grounded x y old)
  · exact earlier (given y handed)
  · exact earlier (grounded target y old)
  · exact made.2

end Growth

theorem refers_add {s : Store} {b : Builder} (bare : b.refs = []) :
    (s.add b).2.Refers = s.Refers := by
  funext x y
  refine propext ?_
  by_cases earlier : x.index < s.size
  · rw [Refers, get_add_of_lt _ _ earlier, Refers]
  · refine iff_of_false (fun h => ?_) fun h => earlier (known_of_refers h)
    have known := known_of_refers h
    rw [size_add] at known
    have last : x = (s.add b).1 := congrArg Ref.mk (by omega : x.index = s.size)
    rw [Refers, last, get_add_self, bare] at h
    cases h

theorem acyclic_add_iff {s : Store} {b : Builder} (bare : b.refs = []) :
    (s.add b).2.Acyclic ↔ s.Acyclic := by
  unfold Acyclic Leads
  rw [refers_add bare]

theorem Grounded.add {s : Store} {b : Builder} (grounded : s.Grounded) (bare : b.refs = []) :
    (s.add b).2.Grounded := by
  intro x y refers
  rw [refers_add bare] at refers
  rw [size_add]
  exact Nat.lt_succ_of_lt (grounded x y refers)

end Store

open Store

/-- The builder that an operation is on, and those that it is handed, are there. -/
def Operation.Grounded (s : Store) : Operation → Prop
  | act target action => ∀ r ∈ target :: action.handed, r.index < s.size
  | _ => True

/-- An operation gives its builder one that leads to it. -/
def Operation.Ties (s t : Store) : Operation → Prop
  | act target action => s.Ties target action.handed t
  | _ => False

namespace Desk

variable (d : Dialect) (desk : Desk)

/-- All along a run the operations use builders that are there. -/
def Grounded (d : Dialect) : Desk → List Operation → Prop
  | _, [] => True
  | desk, operation :: rest =>
    operation.Grounded desk.workspace.store ∧ Grounded d (operation.perform d desk) rest

variable {d desk}

theorem acyclic_perform_iff {operation : Operation} (named : operation.Grounded desk.workspace.store)
    (grounded : desk.workspace.store.Grounded) :
    let after := (operation.perform d desk).workspace.store
    after.Grounded ∧
      (after.Acyclic ↔ desk.workspace.store.Acyclic ∧ ¬operation.Ties desk.workspace.store after) := by
  intro after
  rcases operation.store_cases d desk with ⟨target, action, rfl, same⟩ | ⟨other, same⟩
  · have grows := action.perform_grows d desk.workspace (named target List.mem_cons_self)
    have given : ∀ r ∈ action.handed, r.index < desk.workspace.store.size := fun r mem =>
      named r (List.mem_cons_of_mem _ mem)
    dsimp only [after]
    rw [same]
    exact ⟨grounded_of_grows grows given grounded,
      acyclic_iff grows (named target List.mem_cons_self) given grounded⟩
  · have untied : ¬operation.Ties desk.workspace.store after := by
      cases operation with
      | act target action => exact absurd rfl (other target action)
      | _ => exact id
    rw [and_iff_left untied]
    dsimp only [after]
    rcases same with ⟨index, same⟩ | same
    · rw [same]
      exact ⟨grounded.add rfl, acyclic_add_iff rfl⟩
    · rw [same]
      exact ⟨grounded, Iff.rfl⟩

theorem acyclic_run_iff {operations : List Operation} (named : Grounded d desk operations)
    (grounded : desk.workspace.store.Grounded) :
    (desk.run d operations).workspace.store.Acyclic ↔
      desk.workspace.store.Acyclic ∧
        ∀ before operation after, operations = before ++ operation :: after →
          let now := desk.run d before
          ¬operation.Ties now.workspace.store (operation.perform d now).workspace.store := by
  induction operations generalizing desk with
  | nil => simp [run]
  | cons operation rest ih =>
    obtain ⟨there, named⟩ := named
    obtain ⟨grounded, step⟩ := acyclic_perform_iff (d := d) there grounded
    have later : desk.run d (operation :: rest) = (operation.perform d desk).run d rest := rfl
    rw [later, ih named grounded, step, and_assoc]
    refine and_congr_right fun _ => ⟨?_, fun all => ?_⟩
    · rintro ⟨now, afterwards⟩ before other after split
      cases before with
      | nil =>
        obtain ⟨rfl, -⟩ := List.cons.inj split
        exact now
      | cons first before =>
        obtain ⟨rfl, remaining⟩ := List.cons.inj split
        exact afterwards before other after remaining
    · refine ⟨all [] operation rest rfl, fun before other after split => ?_⟩
      exact all (operation :: before) other after (by rw [split, List.cons_append])

/-- After any run that uses builders that are there, no builder is inside itself, exactly if no
operation of the run was handed a builder that leads to its own one, or is it, and put it where that
one leads to. A request for a builder that is on no way to a circle does not depend on how far one
looks once that is as many builders as there are, and is not refused for a circle. -/
theorem run_untangled (d : Dialect) (c : Connection) (operations : List Operation) :
    let store := ((Desk.opened c).run d operations).workspace.store
    (Grounded d (.opened c) operations → (store.Acyclic ↔
      ∀ before operation after, operations = before ++ operation :: after →
        let now := (Desk.opened c).run d before
        ¬operation.Ties now.workspace.store (operation.perform d now).workspace.store)) ∧
    ∀ ref, store.Untangled ref →
      d.searchRequest store (store.get ref) ≠ .error .circularQuery ∧
      ∀ depth, store.size ≤ depth →
        d.conditionsWithin store depth (store.get ref) = d.conditions store (store.get ref) ∧
        d.aggregationsWithin store depth (store.get ref) =
          d.aggregations store (store.get ref) := by
  intro store
  have none : ∀ x y, ¬(Desk.opened c).workspace.store.Refers x y := fun x y refers =>
    absurd (known_of_refers refers) (Nat.not_lt_zero _)
  have fresh : (Desk.opened c).workspace.store.Acyclic := by
    intro x circle
    obtain ⟨y, refers, -⟩ := Relation.TransGen.head'_iff.mp circle
    exact none x y refers
  refine ⟨fun named => ?_, fun ref clear =>
    ⟨Dialect.searchRequest_straight clear, fun depth far => ⟨?_, ?_⟩⟩⟩
  · rw [acyclic_run_iff named fun x y refers => absurd refers (none x y), and_iff_right fresh]
  · exact Dialect.conditionsWithin_of_shallow clear.shallow far
  · exact Dialect.aggregationsWithin_of_shallow clear.shallow far

def silent : Connection := .opened .standard fun _ _ => .value .null

def swallowing : List Operation :=
  [.query, .act ⟨0⟩ (.fluent (.edit (.criterion
    (.negation (.builder ⟨0⟩) Criterion.conjunction))))]

/-- The call is taken, and from then on the builder leads to itself and cannot be written out. -/
theorem run_swallowing :
    let store := (silent |> Desk.opened |>.run .standard swallowing).workspace.store
    ¬store.Acyclic ∧
      Dialect.standard.searchRequest store (store.get ⟨0⟩) = .error .circularQuery :=
  ⟨fun acyclic => acyclic ⟨0⟩ (.single List.mem_cons_self), rfl⟩

/-- A builder that is filled once it is inside another one, and handed to a third one too. -/
def nesting : List Operation :=
  [.query, .query, .query,
    .act ⟨0⟩ (.fluent (.edit (.criterion (.negation (.builder ⟨1⟩) Criterion.conjunction)))),
    .act ⟨1⟩ (.fluent (.edit (.criterion (.negation (.builder ⟨2⟩) Criterion.conjunction)))),
    .act ⟨0⟩ (.fluent (.edit (.aggregation "own" "filter" (.builder ⟨2⟩) .null)))]

/-- Each builder leads to later ones only, so no call ties a circle. -/
theorem run_untangled_nesting :
    let store := (silent |> Desk.opened |>.run .standard nesting).workspace.store
    (∀ before operation after, nesting = before ++ operation :: after →
      let now := (Desk.opened silent).run .standard before
      ¬operation.Ties now.workspace.store (operation.perform .standard now).workspace.store) ∧
      store.Untangled ⟨0⟩ ∧
      Dialect.standard.searchRequest store (store.get ⟨0⟩) ≠ .error .circularQuery := by
  intro store
  have upward : ∀ x y, store.Refers x y → x.index < y.index := by
    intro x y refers
    obtain ⟨i⟩ := x
    have known : i < 3 := known_of_refers refers
    obtain rfl | rfl | rfl : i = 0 ∨ i = 1 ∨ i = 2 := by omega
    · have : y ∈ [⟨1⟩, ⟨2⟩] := refers
      rcases List.mem_pair.mp this with rfl | rfl <;> decide
    · obtain rfl := List.mem_singleton.mp refers
      decide
    · cases refers
  have clear : ∀ ref, store.Untangled ref := Store.untangled_of_rank Ref.index upward
  have named : Grounded .standard (.opened silent) nesting := by
    refine ⟨trivial, trivial, trivial, ?_, ?_, ?_, trivial⟩
    all_goals
      exact List.forall_mem_cons.mpr ⟨by decide, List.forall_mem_singleton.mpr (by decide)⟩
  obtain ⟨circles, straight⟩ := run_untangled .standard silent nesting
  exact ⟨(circles named).mp fun x => clear x x .refl, clear ⟨0⟩, (straight ⟨0⟩ (clear ⟨0⟩)).1⟩

end Desk

end DocumentSearch
