import DocumentSearch.Proofs.Heap.Look
import DocumentSearch.Proofs.Matching.Search

/-!
# Searches on other pages

What a builder is asked for does not depend on the page that it is on, nor on what it remembers. So
once its search can be written, it can be written on every page, and only the page in it differs.
-/
namespace DocumentSearch

open Outcome

/-- Builders that ask for the same, whichever page they are on. -/
structure Builder.Alike (b b' : Builder) : Prop where
  index : b.index = b'.index
  wheres : b.wheres = b'.wheres
  filters : b.filters = b'.filters
  postFilters : b.postFilters = b'.postFilters
  aggregations : b.aggregations = b'.aggregations
  orders : b.orders = b'.orders
  expandInnerHits : b.expandInnerHits = b'.expandInnerHits

theorem Builder.Alike.refl (b : Builder) : b.Alike b := ⟨rfl, rfl, rfl, rfl, rfl, rfl, rfl⟩

theorem Builder.Alike.trans {b b' b'' : Builder} (h : b.Alike b') (k : b'.Alike b'') :
    b.Alike b'' where
  index := h.index.trans k.index
  wheres := h.wheres.trans k.wheres
  filters := h.filters.trans k.filters
  postFilters := h.postFilters.trans k.postFilters
  aggregations := h.aggregations.trans k.aggregations
  orders := h.orders.trans k.orders
  expandInnerHits := h.expandInnerHits.trans k.expandInnerHits

/-- Stores whose builders ask for the same. -/
structure Store.Alike (s t : Store) : Prop where
  size : s.size = t.size
  builder : ∀ ref, (s.get ref).Alike (t.get ref)

namespace Store.Alike

variable {s t : Store}

theorem refl (s : Store) : s.Alike s := ⟨rfl, fun ref => .refl (s.get ref)⟩

theorem set {ref : Ref} {b : Builder} (known : ref.index < s.size)
    (alike : (s.get ref).Alike b) : s.Alike (s.set ref b) where
  size := (size_set s ref b).symm
  builder other := by
    by_cases eq : other = ref
    · subst eq
      rwa [get_set_self s other b known]
    · rw [get_set_of_ne s b eq]
      exact .refl _

end Store.Alike

namespace Dialect

variable {d : Dialect} {s t : Store} {b b' : Builder}

theorem bucketFragments_congr (alike : b.Alike b') {sub sub' : Ref → Except Error Conditions}
    (subs : sub = sub') : d.bucketFragments sub b = d.bucketFragments sub' b' := by
  rw [bucketFragments, bucketFragments, alike.wheres, alike.filters, alike.postFilters, subs]

theorem conditionsWithin_congr (stores : s.Alike t) (alike : b.Alike b') (depth : Nat) :
    d.conditionsWithin s depth b = d.conditionsWithin t depth b' := by
  induction depth generalizing b b' with
  | zero => exact bucketFragments_congr alike rfl
  | succ depth ih => exact bucketFragments_congr alike (funext fun ref => ih (stores.builder ref))

theorem conditions_congr (stores : s.Alike t) (alike : b.Alike b') :
    d.conditions s b = d.conditions t b' := by
  rw [conditions, conditions, stores.size]
  exact conditionsWithin_congr stores alike t.size

theorem aggregationsWith_congr (stores : s.Alike t) (alike : b.Alike b')
    {inside inside' : Builder → Except Error Entries}
    (insides : ∀ ref, inside (s.get ref) = inside' (t.get ref)) :
    d.aggregationsWith s inside b = d.aggregationsWith t inside' b' := by
  have each : ∀ a ∈ b.aggregations,
      d.aggregationWith s inside a = d.aggregationWith t inside' a := fun a _ =>
    aggregationWith_same (fun ref _ => conditions_congr stores (stores.builder ref))
      (fun ref _ => by rw [(stores.builder ref).aggregations]) fun ref _ => insides ref
  rw [aggregationsWith_same each, aggregationsWith, aggregationsWith, alike.aggregations]

theorem aggregationsWithin_congr (stores : s.Alike t) (alike : b.Alike b') (depth : Nat) :
    d.aggregationsWithin s depth b = d.aggregationsWithin t depth b' := by
  induction depth generalizing b b' with
  | zero => exact aggregationsWith_congr stores alike fun _ => rfl
  | succ depth ih => exact aggregationsWith_congr stores alike fun ref => ih (stores.builder ref)

theorem aggregations_congr (stores : s.Alike t) (alike : b.Alike b') :
    d.aggregations s b = d.aggregations t b' := by
  rw [aggregations, aggregations, stores.size]
  exact aggregationsWithin_congr stores alike t.size

/-- What has to be written for a search: the conditions, the aggregations and the orders. -/
structure Writable (d : Dialect) (s : Store) (b : Builder) : Prop where
  conditions : ∃ parts, d.conditions s b = .ok parts
  aggregations : b.aggregations.isEmpty = false → ∃ written, d.aggregations s b = .ok written
  orders : ∃ orders, b.orders.mapM Order.fragment = .ok orders

theorem writable_iff : d.Writable s b ↔ ∃ body, d.searchBody s b = .ok body := by
  constructor
  · rintro ⟨⟨parts, hp⟩, aggregated, ⟨orders, ho⟩⟩
    cases none : b.aggregations.isEmpty with
    | true => exact ⟨_, searchBody_eq_ok.mpr ⟨parts, [], orders, hp, if_pos none, ho, rfl⟩⟩
    | false =>
      obtain ⟨written, ha⟩ := aggregated none
      refine ⟨_, searchBody_eq_ok.mpr ⟨parts, written, orders, hp, ?_, ho, rfl⟩⟩
      rwa [if_neg (by simp [none])]
  · rintro ⟨body, h⟩
    obtain ⟨parts, aggregations, orders, hp, ha, ho, -⟩ := searchBody_eq_ok.mp h
    refine ⟨⟨parts, hp⟩, fun some => ⟨aggregations, ?_⟩, orders, ho⟩
    rwa [if_neg (by simp [some])] at ha

theorem Writable.congr (stores : s.Alike t) (alike : b.Alike b') (h : d.Writable s b) :
    d.Writable t b' where
  conditions := conditions_congr stores alike ▸ h.conditions
  aggregations := alike.aggregations ▸ aggregations_congr stores alike ▸ h.aggregations
  orders := alike.orders ▸ h.orders

/-- A search that can be written on one page can be written on every page. -/
theorem searchRequest_turned {request : SearchRequest} (stores : s.Alike t) (alike : b.Alike b')
    (h : d.searchRequest s b = .ok request) : ∃ turned, d.searchRequest t b' = .ok turned := by
  obtain ⟨body, written, h⟩ := bind_eq_ok.mp h
  obtain ⟨name, named, -⟩ := bind_eq_ok.mp h
  obtain ⟨body', written'⟩ := writable_iff.mp ((writable_iff.mpr ⟨body, written⟩).congr stores alike)
  exact ⟨_, bind_eq_ok.mpr ⟨body', written', bind_eq_ok.mpr ⟨name, alike.index ▸ named, rfl⟩⟩⟩

/-- The entries of a body that tell the page. -/
structure SearchRequest.OnPage (request : SearchRequest) (offset : Nat) (limit : Option Number) :
    Prop where
  start : request.body.find? "from" = if offset = 0 then none else some (.ofNat offset)
  size : request.body.find? "size" = limit.map Value.ofNumber

theorem searchRequest_onPage {request : SearchRequest} (h : d.searchRequest s b = .ok request) :
    request.OnPage b.offset b.limit := by
  simp only [searchRequest, bind_eq_ok, pure_eq_ok] at h
  obtain ⟨body, written, index, -, rfl⟩ := h
  obtain ⟨parts, aggregations, orders, -, -, -, rfl⟩ := searchBody_eq_ok.mp written
  constructor
  · by_cases first : b.offset = 0 <;>
      simp [Table.find?_cons, Table.find?_append, find?_entryIf, find?_limitEntry, first]
  · have size : Table.find? (limitEntry b.limit) "size" = b.limit.map Value.ofNumber := by
      cases b.limit <;> simp [limitEntry, Table.find?_cons]
    simp [Table.find?_cons, Table.find?_append, find?_entryIf, size]

end Dialect

end DocumentSearch
