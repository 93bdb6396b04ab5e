import DocumentSearch.Proofs.Heap.Agree
import DocumentSearch.Proofs.Heap.Depth
import DocumentSearch.Proofs.Matching.Kept

/-!
# Where clauses lead

The conditions of a builder are written from its clauses and from the conditions of the builders
that these refer to. Aggregations are not looked at, so they are the same in a store where no
builder has any. If they can be written, the clauses do not lead into a circle; and they depend on
no builder that the clauses do not lead to.
-/
namespace DocumentSearch

open Outcome

def Builder.bare (b : Builder) : Builder := { b with aggregations := [] }

theorem Builder.mem_refs_bare {b : Builder} {r : Ref} :
    r ∈ b.bare.refs ↔ ∃ k, ∃ c ∈ b.bucket k, c.condition.query? = some r := by
  have same : ∀ k, b.bare.bucket k = b.bucket k := fun k => by cases k <;> rfl
  simp only [mem_refs, same, Clause.refs, Option.mem_toList]
  exact or_iff_left (by simp [bare])

namespace Store

def bare (s : Store) : Store := ⟨s.builders.map Builder.bare⟩

variable {s : Store} {x y ref : Ref}

@[simp] theorem size_bare (s : Store) : s.bare.size = s.size := by
  simp [bare, size]

theorem get_bare (s : Store) (ref : Ref) : s.bare.get ref = (s.get ref).bare := by
  by_cases known : ref.index < s.builders.length
  · simp [bare, get, List.getElem?_eq_getElem known]
  · rw [get_of_unknown (Nat.le_of_not_lt known),
      get_of_unknown (by rw [size_bare]; exact Nat.le_of_not_lt known)]
    rfl

theorem bare_set (s : Store) (ref : Ref) (b : Builder) :
    (s.set ref b).bare = s.bare.set ref b.bare := by
  simp [bare, set, List.map_set]

theorem bare_refers :
    s.bare.Refers x y ↔ ∃ k, ∃ c ∈ (s.get x).bucket k, c.condition.query? = some y := by
  rw [Refers, get_bare, Builder.mem_refs_bare]

/-- Clauses lead from one builder to another, or it is the same one. -/
def Reaches (s : Store) : Ref → Ref → Prop := Relation.ReflTransGen s.bare.Refers

end Store

namespace Dialect

open Store

variable {d : Dialect} {s : Store} {x y ref : Ref} {depth : Nat} {parts : Conditions}

theorem conditionsWithin_bare (d : Dialect) (s : Store) (depth : Nat) (b : Builder) :
    d.conditionsWithin s.bare depth b.bare = d.conditionsWithin s depth b := by
  induction depth generalizing b with
  | zero => rfl
  | succ depth ih =>
    have inner : (fun ref => d.conditionsWithin s.bare depth (s.bare.get ref)) =
        fun ref => d.conditionsWithin s depth (s.get ref) := by
      funext ref
      rw [get_bare, ih]
    rw [conditionsWithin, inner]
    rfl

theorem conditionsWithin_of_refers (h : d.conditionsWithin s depth (s.get x) = .ok parts)
    (refers : s.bare.Refers x y) :
    ∃ less < depth, ∃ inner, d.conditionsWithin s less (s.get y) = .ok inner := by
  obtain ⟨k, c, mem, named⟩ := bare_refers.mp refers
  cases depth with
  | zero =>
    obtain ⟨f, hf, -⟩ := gathers_of_mem h mem
    obtain ⟨inner, hi⟩ := written_of_clauseFragment hf named
    cases hi
  | succ depth =>
    obtain ⟨f, hf, -⟩ := gathers_of_mem h mem
    obtain ⟨inner, hi⟩ := written_of_clauseFragment hf named
    exact ⟨depth, Nat.lt_succ_self depth, inner, hi⟩

theorem conditionsWithin_of_leads (h : d.conditionsWithin s depth (s.get x) = .ok parts)
    (leads : s.bare.Leads x y) :
    ∃ less < depth, ∃ inner, d.conditionsWithin s less (s.get y) = .ok inner := by
  induction leads with
  | single refers => exact conditionsWithin_of_refers h refers
  | tail _ refers ih =>
    obtain ⟨less, lt, inner, written⟩ := ih
    obtain ⟨fewer, lt', inner', written'⟩ := conditionsWithin_of_refers written refers
    exact ⟨fewer, Nat.lt_trans lt' lt, inner', written'⟩

/-- A circle would be written within ever less depth. -/
theorem not_circle_of_conditionsWithin (h : d.conditionsWithin s depth (s.get x) = .ok parts) :
    ¬s.bare.Leads x x := by
  intro circle
  induction depth using Nat.strongRecOn generalizing parts with
  | ind depth ih =>
    obtain ⟨less, lt, inner, written⟩ := conditionsWithin_of_leads h circle
    exact ih less lt written

theorem untangled_of_conditions (h : d.conditions s (s.get x) = .ok parts) :
    s.bare.Untangled x := by
  intro z reached
  rcases Relation.reflTransGen_iff_eq_or_transGen.mp reached with rfl | leads
  · exact not_circle_of_conditionsWithin h
  · obtain ⟨less, -, inner, written⟩ := conditionsWithin_of_leads h leads
    exact not_circle_of_conditionsWithin written

theorem conditionsWithin_set (apart : ¬s.Reaches x ref) (b : Builder) (depth : Nat) :
    d.conditionsWithin (s.set ref b) depth (s.get x) = d.conditionsWithin s depth (s.get x) := by
  have agree : s.bare.Agree (s.Reaches x) (s.bare.set ref b.bare) := by
    refine ⟨(size_set _ _ _).symm, fun r reached => (get_set_of_ne _ _ ?_).symm⟩
    rintro rfl
    exact apart reached
  have closed : s.bare.Closed (s.Reaches x) := fun r reached o named => reached.tail named
  rw [← conditionsWithin_bare, ← conditionsWithin_bare d s, bare_set]
  refine (d.conditionsWithin_agree agree closed depth fun r named => ?_).symm
  exact .single (by rwa [Refers, get_bare])

/-- A builder is written from the conditions of those that its clauses refer to, as they were before
it was set in its place, if none of them leads there. -/
theorem conditions_set {b : Builder} (known : ref.index < s.size)
    (each : ∀ k, ∀ c ∈ b.bucket k, ∀ r, c.condition.query? = some r →
      ¬s.Reaches r ref ∧ ∃ inner, d.conditions s (s.get r) = .ok inner) :
    d.conditions (s.set ref b) b =
      d.bucketFragments (fun r => d.conditions s (s.get r)) b := by
  obtain ⟨depth, size⟩ := Nat.exists_eq_succ_of_ne_zero (Nat.ne_of_gt (Nat.zero_lt_of_lt known))
  have same : ∀ r ∈ b.bare.refs, d.conditionsWithin (s.set ref b) depth ((s.set ref b).get r) =
      d.conditions s (s.get r) := by
    intro r named
    obtain ⟨k, c, mem, query⟩ := Builder.mem_refs_bare.mp named
    obtain ⟨apart, inner, written⟩ := each k c mem r query
    have other : r ≠ ref := by
      rintro rfl
      exact apart .refl
    have moved := conditionsWithin_set (d := d) apart b s.size
    rw [get_set_of_ne s b other]
    have clear : (s.set ref b).bare.Untangled r := by
      have still : d.conditions (s.set ref b) ((s.set ref b).get r) = .ok inner := by
        rw [get_set_of_ne s b other, conditions, size_set, moved]
        exact written
      exact untangled_of_conditions still
    have path : (s.set ref b).bare.Path [ref] r := by
      refine ⟨List.nodup_singleton ref, ?_, ?_⟩
      · simpa using known
      · refine List.forall_mem_singleton.mpr (.single (bare_refers.mpr ⟨k, c, ?_, query⟩))
        rwa [get_set_self s ref b known]
    have shallow : (s.set ref b).bare.Shallow depth ((s.set ref b).bare.get r) :=
      path.shallow clear (by simp [size])
    rw [get_bare, get_set_of_ne s b other] at shallow
    have deep : d.conditionsWithin (s.set ref b).bare s.size (s.get r).bare =
        d.conditionsWithin (s.set ref b).bare depth (s.get r).bare :=
      conditionsWithin_of_shallow shallow (by omega)
    rw [conditionsWithin_bare, conditionsWithin_bare, moved] at deep
    exact deep.symm
  have whole : d.conditions (s.set ref b) b =
      d.bucketFragments
        (fun r => d.conditionsWithin (s.set ref b) depth ((s.set ref b).get r)) b := by
    rw [conditions, size_set, size]
    rfl
  rw [whole]
  exact bucketFragments_same (b := b.bare) same

end Dialect

end DocumentSearch
