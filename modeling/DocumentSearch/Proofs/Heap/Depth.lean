import Mathlib.Logic.Relation
import Mathlib.Data.List.Nodup
import Mathlib.Data.List.Perm.Subperm
import DocumentSearch.Proofs.Heap.Look
import DocumentSearch.Proofs.Matching.Blame

/-!
# How deep references lead

A builder from which no circle is reached has its references end after at most as many builders as
there are in the store. So its request is the same however much further one looks, and it is not
refused for being inside itself.
-/
namespace DocumentSearch

open Outcome

namespace Store

def Refers (s : Store) (x y : Ref) : Prop := y ∈ (s.get x).refs

def Leads (s : Store) : Ref → Ref → Prop := Relation.TransGen s.Refers

/-- No builder that is reached leads back to itself. -/
def Untangled (s : Store) (ref : Ref) : Prop :=
  ∀ x, Relation.ReflTransGen s.Refers ref x → ¬s.Leads x x

/-- References end after so many builders. -/
def Shallow (s : Store) : Nat → Builder → Prop
  | 0, b => b.refs = []
  | depth + 1, b => ∀ r ∈ b.refs, Shallow s depth (s.get r)

variable {s : Store} {b : Builder}

theorem Shallow.not_mem_refs (h : s.Shallow 0 b) {r : Ref} : r ∉ b.refs := by
  rw [Shallow] at h
  rw [h]
  exact List.not_mem_nil

theorem known_of_refers {x y : Ref} (h : s.Refers x y) : x.index < s.size := by
  by_contra unknown
  rw [Refers, get_of_unknown (Nat.le_of_not_lt unknown)] at h
  cases h

/-- Where references lead to ever higher ranks, they lead into no circle. -/
theorem untangled_of_rank (rank : Ref → Nat) (rises : ∀ x y, s.Refers x y → rank x < rank y)
    (ref : Ref) : s.Untangled ref := by
  have along : ∀ {x y}, s.Leads x y → rank x < rank y := fun leads => by
    induction leads with
    | single refers => exact rises _ _ refers
    | tail _ refers ih => exact Nat.lt_trans ih (rises _ _ refers)
  exact fun x _ circle => Nat.lt_irrefl _ (along circle)

theorem length_le_size {path : List Ref} (distinct : path.Nodup)
    (known : ∀ r ∈ path, r.index < s.size) : path.length ≤ s.size := by
  have indices : (path.map Ref.index).Nodup :=
    distinct.map fun x y same => by cases x; cases y; exact congrArg Ref.mk same
  have inside : path.map Ref.index ⊆ List.range s.size := by
    intro i mem
    obtain ⟨r, there, rfl⟩ := List.mem_map.mp mem
    exact List.mem_range.mpr (known r there)
  simpa using (indices.subperm inside).length_le

theorem Untangled.of_refers {x y : Ref} (clear : s.Untangled x) (refers : s.Refers x y) :
    s.Untangled y := fun z reached => clear z (.head refers reached)

/-- The builders of a path to one that is on no circle, which are there and all different. -/
structure Path (s : Store) (path : List Ref) (x : Ref) : Prop where
  distinct : path.Nodup
  known : ∀ p ∈ path, p.index < s.size
  leads : ∀ p ∈ path, s.Leads p x

theorem Path.extend {path : List Ref} {x y : Ref} (h : s.Path path x) (clear : s.Untangled x)
    (refers : s.Refers x y) : s.Path (x :: path) y where
  distinct := List.nodup_cons.mpr ⟨fun mem => clear x .refl (h.leads x mem), h.distinct⟩
  known := List.forall_mem_cons.mpr ⟨known_of_refers refers, h.known⟩
  leads := List.forall_mem_cons.mpr ⟨.single refers, fun p mem => (h.leads p mem).tail refers⟩

/-- A path that is as long as there are builders ends. -/
theorem Path.shallow {depth : Nat} {path : List Ref} {x : Ref} (h : s.Path path x)
    (clear : s.Untangled x) (long : s.size ≤ depth + path.length) :
    s.Shallow depth (s.get x) := by
  induction depth generalizing x path with
  | zero =>
    refine List.eq_nil_iff_forall_not_mem.mpr fun r refers => ?_
    have further := h.extend clear refers
    have short := length_le_size further.distinct further.known
    rw [List.length_cons] at short
    omega
  | succ depth ih =>
    intro r refers
    refine ih (h.extend clear refers) (clear.of_refers refers) ?_
    rw [List.length_cons]
    omega

theorem Untangled.shallow {x : Ref} (clear : s.Untangled x) : s.Shallow s.size (s.get x) :=
  Path.shallow ⟨List.nodup_nil, nofun, nofun⟩ clear (by simp)

end Store

namespace Dialect

variable {d : Dialect} {s : Store} {b : Builder} {depth deeper : Nat}

theorem conditionsWithin_of_shallow (shallow : s.Shallow depth b) (le : depth ≤ deeper) :
    d.conditionsWithin s deeper b = d.conditionsWithin s depth b := by
  induction depth generalizing b deeper with
  | zero =>
    have none : ∀ {sub sub'}, d.bucketFragments sub b = d.bucketFragments sub' b := fun {_ _} =>
      bucketFragments_same fun r named => absurd named shallow.not_mem_refs
    cases deeper <;> exact none
  | succ depth ih =>
    obtain ⟨deeper, rfl⟩ := Nat.exists_eq_succ_of_ne_zero (show deeper ≠ 0 by omega)
    exact bucketFragments_same fun r named => ih (shallow r named) (by omega)

theorem aggregationsWithin_of_shallow (shallow : s.Shallow depth b) (le : depth ≤ deeper) :
    d.aggregationsWithin s deeper b = d.aggregationsWithin s depth b := by
  induction depth generalizing b deeper with
  | zero =>
    have none : ∀ {inside inside'}, d.aggregationsWith s inside b =
        d.aggregationsWith s inside' b := fun {_ _} => by
      refine aggregationsWith_same fun a mem => aggregationWith_same (fun _ _ => rfl)
        (fun _ _ => rfl) fun r sub => ?_
      exact absurd (Builder.mem_refs_of_sub mem sub) shallow.not_mem_refs
    cases deeper <;> exact none
  | succ depth ih =>
    obtain ⟨deeper, rfl⟩ := Nat.exists_eq_succ_of_ne_zero (show deeper ≠ 0 by omega)
    refine aggregationsWith_same fun a mem => aggregationWith_same (fun _ _ => rfl)
      (fun _ _ => rfl) fun r sub => ih (shallow r (Builder.mem_refs_of_sub mem sub)) (by omega)

/-- The errors other than that of a builder inside itself. -/
def Straight (e : Error) : Prop := e ≠ .circularQuery

instance : Error.Covers Straight where
  blame e blames := by
    rintro rfl
    cases blames
  misuse m := nofun

theorem straight_conditionsWithin (shallow : s.Shallow depth b) :
    Writes Straight (d.conditionsWithin s depth b) := by
  have named : ∀ {b : Builder} {k : Bucket} {c : Clause} {r : Ref}, c ∈ b.bucket k →
      c.condition.query? = some r → r ∈ b.refs := fun mem query =>
    Builder.mem_refs.mpr (.inl ⟨_, _, mem, Option.mem_toList.mpr query⟩)
  induction depth generalizing b with
  | zero =>
    refine d.writes_bucketFragments fun k c mem r query => ?_
    exact absurd (named mem query) shallow.not_mem_refs
  | succ depth ih =>
    exact d.writes_bucketFragments fun k c mem r query => ih (shallow r (named mem query))

theorem straight_conditions {x : Ref} (clear : s.Untangled x) :
    Writes Straight (d.conditions s (s.get x)) := straight_conditionsWithin clear.shallow

theorem straight_aggregationsWithin {x : Ref} (clear : s.Untangled x)
    (shallow : s.Shallow depth (s.get x)) :
    Writes Straight (d.aggregationsWithin s depth (s.get x)) := by
  have filters : ∀ {x : Ref}, s.Untangled x → ∀ a ∈ (s.get x).aggregations, ∀ r,
      a.args = .builder r → Writes Straight (d.conditions s (s.get r)) := fun clear a mem r args =>
    straight_conditions (clear.of_refers (Builder.mem_refs_of_args mem args))
  induction depth generalizing x with
  | zero =>
    refine d.writes_aggregationsWith s (filters clear) fun a mem r sub => ?_
    exact absurd (Builder.mem_refs_of_sub mem sub) shallow.not_mem_refs
  | succ depth ih =>
    refine d.writes_aggregationsWith s (filters clear) fun a mem r sub => ?_
    have named := Builder.mem_refs_of_sub mem sub
    exact ih (clear.of_refers named) (shallow r named)

/-- A request for a builder that is on no way to a circle is written without an end to how far it
looks, and not refused for a circle. -/
theorem searchRequest_straight {x : Ref} (clear : s.Untangled x) :
    d.searchRequest s (s.get x) ≠ .error .circularQuery := by
  intro refused
  have straight := d.writes_search_of s (straight_conditions clear)
    (straight_aggregationsWithin clear clear.shallow)
  exact straight _ refused rfl

end Dialect

end DocumentSearch
