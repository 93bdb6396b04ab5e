import DocumentSearch.Request.Search
import DocumentSearch.Proofs.Heap.Growth
import DocumentSearch.Proofs.Bulk.Item

/-!
# The report of a builder's aggregations

Aggregations are written one after the other under their keys, and one that has the key of an
earlier one would write over it. Since no two have the same key, nothing is lost: the report has one
entry for each aggregation, in order, with its own part and with the report of the builder inside.
-/
namespace DocumentSearch

open Outcome

namespace Table

variable {κ α : Type} [BEq κ]

theorem insert_of_absent {t : Table κ α} {key : κ} (absent : t.find? key = none) (value : α) :
    t.insert key value = t ++ [(key, value)] := by
  induction t with
  | nil => rfl
  | cons p t ih =>
    obtain ⟨k, v⟩ := p
    rw [find?_cons] at absent
    split at absent
    · cases absent
    · rename_i other
      rw [insert, if_neg other, ih absent, List.cons_append]

end Table

namespace AggregationKind

def typeName? : AggregationKind → Option String
  | terms => some "terms"
  | dateHistogram => some "date_histogram"
  | dateRange => some "date_range"
  | .exists => some "exists"
  | filter => some "filter"
  | nested => some "nested"
  | reverseNested => some "reverse_nested"
  | children => some "children"
  | metric => none

theorem typeName?_of_ofType? {type name : String} {kind : AggregationKind}
    (known : ofType? type = some kind) (named : kind.typeName? = some name) : type = name := by
  cases kind <;> cases named <;>
    simp only [ofType?, ite_eq_iff, Option.some.injEq, reduceCtorEq, and_true, and_false, false_or,
      or_false] at known <;>
    tauto

end AggregationKind

namespace Aggregation

variable {a : Aggregation} {pattern : Value} {sub : Ref → Except Error Conditions} {f : Entries}

theorem fragment_typed (a : Aggregation) (pattern : Value) (sub : Ref → Except Error Conditions) :
    GivesOnly (fun f => ∃ body, f = [(.str a.type, body)]) (a.fragment pattern sub) := by
  have under : ∀ {kind : AggregationKind} {name : String} (body : Value),
      AggregationKind.ofType? a.type = some kind → kind.typeName? = some name →
        ∃ other, ([(.str name, body)] : Entries) = [(.str a.type, other)] :=
    fun body known named => ⟨body, by rw [AggregationKind.typeName?_of_ofType? known named]⟩
  unfold fragment
  split <;> rename_i known
  · exact .error _
  · exact .bind fun _ _ => .ok (under _ known rfl)
  · exact .bind fun _ _ => .bind fun _ _ => .ok (under _ known rfl)
  · exact .ok (under _ known rfl)
  · exact .bind fun _ _ => .ok (under _ known rfl)
  · split
    · exact .bind fun _ _ => .ok (under _ known rfl)
    · exact .error _
  · exact .bind fun _ _ => .ok (under _ known rfl)
  · exact .ok (under _ known rfl)
  · exact .bind fun _ _ => .ok (under _ known rfl)
  · exact .bind fun _ _ => .ok ⟨_, rfl⟩

theorem type_ne_of_fragment (h : a.fragment pattern sub = .ok f) : a.type ≠ "aggregations" := by
  intro same
  have unknown : AggregationKind.ofType? a.type = none := by rw [same]; rfl
  rw [fragment, unknown] at h
  cases h

/-- What is reported beside an aggregation: those of the builder inside it, if it has any. -/
def Inside (d : Dialect) (store : Store) (a : Aggregation) (inner : Entries) : Prop :=
  match a.sub with
  | none => inner = []
  | some ref =>
    if (store.get ref).aggregations = [] then inner = []
    else ∃ written, d.aggregations store (store.get ref) = .ok written ∧
      inner = [(.str "aggregations", .map written)]

def Reported (d : Dialect) (store : Store) (a : Aggregation) (entry : Value × Value) : Prop :=
  ∃ body inner, entry = (.str a.key, .map ((.str a.type, body) :: inner)) ∧ a.Inside d store inner

end Aggregation

namespace Dialect

variable {d : Dialect} {store : Store} {b : Builder} {a : Aggregation} {entries : Entries}
  {inside other : Builder → Except Error Entries}

theorem aggregationWith_mono (h : d.aggregationWith store inside a = .ok entries)
    (same : ∀ b written, inside b = .ok written → other b = .ok written) :
    d.aggregationWith store other a = .ok entries := by
  unfold aggregationWith at h ⊢
  obtain ⟨f, own, h⟩ := bind_eq_ok.mp h
  refine bind_eq_ok.mpr ⟨f, own, ?_⟩
  split at h
  · split at h
    · rename_i filled
      obtain ⟨written, hw, h⟩ := bind_eq_ok.mp h
      rw [if_pos filled]
      exact bind_eq_ok.mpr ⟨written, same _ written hw, h⟩
    · rename_i none
      rwa [if_neg none]
  · exact h

/-- Each aggregation is written on its own, and with a key that is new its entry goes to the end. -/
theorem entries_of_foldlM {later : List Aggregation} {start : Entries}
    (h : later.foldlM (fun written a => do
      return Table.insert written a.key (.map (← d.aggregationWith store inside a))) start =
        .ok entries)
    (absent : ∀ a ∈ later, Table.find? start a.key = none)
    (distinct : (later.map Aggregation.key).Nodup) :
    ∃ rest, entries = start ++ rest ∧ List.Forall₂ (fun a entry =>
      ∃ f, d.aggregationWith store inside a = .ok f ∧ entry = (.str a.key, .map f)) later rest := by
  induction later generalizing start with
  | nil =>
    obtain rfl := pure_eq_ok.mp h
    exact ⟨[], (List.append_nil _).symm, .nil⟩
  | cons a later ih =>
    rw [List.map_cons, List.nodup_cons] at distinct
    obtain ⟨first, rest⟩ := List.forall_mem_cons.mp absent
    simp only [List.foldlM_cons, bind_eq_ok, pure_eq_ok] at h
    obtain ⟨_, ⟨f, own, rfl⟩, h⟩ := h
    rw [Table.insert_of_absent first] at h
    have fresh : ∀ x ∈ later,
        Table.find? (start ++ [(Value.str a.key, Value.map f)]) x.key = none := by
      intro x mem
      have ne : a.key ≠ x.key := fun same => distinct.1 (same ▸ List.mem_map_of_mem mem)
      rw [Table.find?_append, rest x mem]
      simp [Table.find?_cons, ne]
    obtain ⟨others, rfl, each⟩ := ih h fresh distinct.2
    exact ⟨(.str a.key, .map f) :: others, by simp, .cons ⟨f, own, rfl⟩ each⟩

theorem aggregationsWith_mono (h : d.aggregationsWith store inside b = .ok entries)
    (same : ∀ b written, inside b = .ok written → other b = .ok written) :
    d.aggregationsWith store other b = .ok entries := by
  unfold aggregationsWith at h ⊢
  generalize ([] : Entries) = start at h ⊢
  generalize b.aggregations = later at h ⊢
  induction later generalizing start with
  | nil => exact h
  | cons a later ih =>
    rw [List.foldlM_cons] at h ⊢
    obtain ⟨written, one, h⟩ := bind_eq_ok.mp h
    obtain ⟨f, own, one⟩ := bind_eq_ok.mp one
    exact bind_eq_ok.mpr ⟨written,
      bind_eq_ok.mpr ⟨f, aggregationWith_mono own same, one⟩, ih written h⟩

/-- Looking further into builders changes nothing. -/
theorem aggregationsWithin_succ {depth : Nat}
    (h : d.aggregationsWithin store depth b = .ok entries) :
    d.aggregationsWithin store (depth + 1) b = .ok entries := by
  induction depth generalizing b entries with
  | zero => exact aggregationsWith_mono h fun _ _ refused => nomatch refused
  | succ depth ih => exact aggregationsWith_mono h fun b written => ih

theorem aggregations_unfold (h : d.aggregations store b = .ok entries) :
    d.aggregationsWith store (d.aggregations store) b = .ok entries :=
  aggregationsWithin_succ h

theorem reported_of_aggregationWith {f : Entries}
    (h : d.aggregationWith store (d.aggregations store) a = .ok f) :
    a.Reported d store (.str a.key, .map f) := by
  unfold aggregationWith at h
  obtain ⟨own, written, h⟩ := bind_eq_ok.mp h
  have other : a.type ≠ "aggregations" := Aggregation.type_ne_of_fragment written
  obtain ⟨body, rfl⟩ := a.fragment_typed _ _ own written
  split at h
  · rename_i ref sub
    split at h
    · rename_i filled
      obtain ⟨inner, hi, h⟩ := bind_eq_ok.mp h
      obtain rfl := pure_eq_ok.mp h
      have some : (store.get ref).aggregations ≠ [] := by
        simpa [Aggregation.hasSub, sub] using filled
      refine ⟨body, [("aggregations", .map inner)], ?_, ?_⟩
      · have absent : Table.find? ([(.str a.type, body)] : Entries) "aggregations" = none := by
          simp [Table.find?_cons, other]
        rw [Table.insert_of_absent absent]
        rfl
      · rw [Aggregation.Inside, sub]
        simp only [if_neg some]
        exact ⟨inner, hi, rfl⟩
    · rename_i none
      obtain rfl := pure_eq_ok.mp h
      have empty : (store.get ref).aggregations = [] := by
        simpa [Aggregation.hasSub, sub] using none
      refine ⟨body, [], rfl, ?_⟩
      rw [Aggregation.Inside, sub]
      simp only [if_pos empty]
  · rename_i sub
    obtain rfl := pure_eq_ok.mp h
    exact ⟨body, [], rfl, by rw [Aggregation.Inside, sub]⟩

theorem aggregations_reported (keyed : b.Keyed) (h : d.aggregations store b = .ok entries) :
    List.Forall₂ (fun a entry => a.Reported d store entry) b.aggregations entries := by
  obtain ⟨rest, rfl, each⟩ := entries_of_foldlM (aggregations_unfold h) (fun _ _ => rfl) keyed.1
  refine each.imp fun a entry one => ?_
  obtain ⟨f, written, rfl⟩ := one
  exact reported_of_aggregationWith written

end Dialect

end DocumentSearch
