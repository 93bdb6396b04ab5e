import DocumentSearch.Edit
import DocumentSearch.Proofs.Fluent.Stated

/-!
# What calls add to builders

The clauses and the aggregations of a builder refer to other builders. A call puts new ones behind
those that are there. They refer to builders that the call was handed, or to one that it made, and
no two aggregations get the same key.
-/
namespace DocumentSearch

open Outcome

def Clause.refs (c : Clause) : List Ref := c.condition.query?.toList

def Aggregation.refs (a : Aggregation) : List Ref := a.args.builder?.toList ++ a.sub.toList

def Builder.refs (b : Builder) : List Ref :=
  (b.wheres ++ b.filters ++ b.postFilters).flatMap Clause.refs ++
    b.aggregations.flatMap Aggregation.refs

namespace Criterion

def handed : Criterion → List Ref
  | comparison column _ _ _ => column.columnRefs
  | group query _ => query.builder?.toList
  | nestedDocument _ query _ => query.builder?.toList
  | negation query _ => query.builder?.toList
  | parent _ query _ _ => query.builder?.toList
  | child _ query _ _ => query.builder?.toList
  | _ => []

variable {criterion : Criterion}

theorem grouped_subset_handed (criterion : Criterion) : criterion.grouped ⊆ criterion.handed := by
  cases criterion with
  | comparison | group => exact List.Subset.refl _
  | _ => exact List.nil_subset _

theorem States.query?_subset {c : Condition} (stated : criterion.States c) :
    c.query?.toList ⊆ criterion.handed := by
  cases stated with
  | nestedDocument | negation | parent | child => exact List.Subset.refl _
  | _ => exact List.nil_subset _

/-- The clauses that a criterion stands for refer to no builder but those handed over with it. -/
theorem refer_clauses {store : Store} {self : Ref} {clauses : List (Bucket × Clause)}
    (h : criterion.clauses store self = .ok clauses) :
    ∀ c ∈ clauses, c.2.refs ⊆ criterion.handed := by
  have stands := criterion.stands_clauses store self clauses h
  refine stands.forall (P := fun c => c.refs ⊆ criterion.handed) (fun c made => ?_) ?_
  · exact made.condition.query?_subset
  · exact fun joins inner mem k => List.cons_subset.mpr
      ⟨grouped_subset_handed _ mem, List.nil_subset _⟩

end Criterion

namespace Aggregation

/-- A text that the search engine can use in paths into aggregations. -/
def IsKey (key : String) : Prop := key ≠ "" ∧ ∀ c ∈ ['[', ']', '>'], c ∉ key.toList

theorem isKey_of_keyOf {v : Value} {key : String} (h : keyOf v = .ok key) : IsKey key := by
  unfold keyOf at h
  split at h
  · split at h
    · cases h
    · rename_i text filled
      split at h
      · cases h
      · rename_i none
        cases h
        refine ⟨filled, fun c mem inside => ?_⟩
        have free := List.find?_eq_none.mp none
        simp only [List.mem_cons, List.not_mem_nil, or_false] at mem
        rcases mem with rfl | rfl | rfl
        · exact free ('[', "左方括号") (by simp [reservedCharacters]) (by simpa using inside)
        · exact free (']', "右方括号") (by simp [reservedCharacters]) (by simpa using inside)
        · exact free ('>', "大于号") (by simp [reservedCharacters]) (by simpa using inside)
  · cases h

theorem make_eq_ok {key type args : Value} {sub : Option Ref} {a : Aggregation}
    (h : make key type args sub = .ok a) :
    IsKey a.key ∧ a.refs = args.builder?.toList ++ sub.toList := by
  obtain ⟨key, text, h⟩ := bind_eq_ok.mp h
  obtain ⟨type, -, h⟩ := bind_eq_ok.mp h
  obtain rfl := pure_eq_ok.mp h
  exact ⟨isKey_of_keyOf text, rfl⟩

end Aggregation

namespace Builder

/-- Every aggregation of a builder has a key, and no two the same. -/
def Keyed (b : Builder) : Prop :=
  (b.aggregations.map Aggregation.key).Nodup ∧ ∀ a ∈ b.aggregations, Aggregation.IsKey a.key

/-- A builder later on. What was added refers to builders of some kind only. -/
structure GrowsBy (P : Ref → Prop) (b b' : Builder) : Prop where
  bucket : ∀ k, ∃ added, b'.bucket k = b.bucket k ++ added ∧ ∀ c ∈ added, ∀ r ∈ c.refs, P r
  aggregations : ∃ added, b'.aggregations = b.aggregations ++ added ∧
    ∀ a ∈ added, ∀ r ∈ a.refs, P r
  keyed : b.Keyed → b'.Keyed

variable {b b' b'' : Builder} {P Q : Ref → Prop} {r : Ref}

theorem mem_refs : r ∈ b.refs ↔
    (∃ k, ∃ c ∈ b.bucket k, r ∈ c.refs) ∨ ∃ a ∈ b.aggregations, r ∈ a.refs := by
  have buckets : (∃ k, ∃ c ∈ b.bucket k, r ∈ c.refs) ↔
      ∃ c ∈ b.wheres ++ b.filters ++ b.postFilters, r ∈ c.refs := by
    constructor
    · rintro ⟨k, c, mem, named⟩
      cases k <;> exact ⟨c, by simp_all [bucket], named⟩
    · rintro ⟨c, mem, named⟩
      rcases List.mem_append.mp mem with mem | mem
      · rcases List.mem_append.mp mem with mem | mem
        · exact ⟨.query, c, mem, named⟩
        · exact ⟨.filter, c, mem, named⟩
      · exact ⟨.postFilter, c, mem, named⟩
  rw [refs, List.mem_append, List.mem_flatMap, List.mem_flatMap, buckets]

theorem mem_refs_of_args {a : Aggregation} (mem : a ∈ b.aggregations) (args : a.args = .builder r) :
    r ∈ b.refs := mem_refs.mpr (.inr ⟨a, mem, by simp [Aggregation.refs, args, Value.builder?]⟩)

theorem mem_refs_of_sub {a : Aggregation} (mem : a ∈ b.aggregations) (sub : a.sub = some r) :
    r ∈ b.refs := mem_refs.mpr (.inr ⟨a, mem, by simp [Aggregation.refs, sub]⟩)

namespace GrowsBy

theorem of_same (bucket : ∀ k, b'.bucket k = b.bucket k)
    (aggregations : b'.aggregations = b.aggregations) : GrowsBy P b b' where
  bucket k := ⟨[], by rw [bucket, List.append_nil], nofun⟩
  aggregations := ⟨[], by rw [aggregations, List.append_nil], nofun⟩
  keyed h := by rwa [Keyed, aggregations]

theorem refl (P : Ref → Prop) (b : Builder) : GrowsBy P b b := of_same (fun _ => rfl) rfl

theorem imp (h : GrowsBy P b b') (wider : ∀ r, P r → Q r) : GrowsBy Q b b' where
  bucket k := by
    obtain ⟨added, same, refer⟩ := h.bucket k
    exact ⟨added, same, fun c mem r named => wider r (refer c mem r named)⟩
  aggregations := by
    obtain ⟨added, same, refer⟩ := h.aggregations
    exact ⟨added, same, fun a mem r named => wider r (refer a mem r named)⟩
  keyed := h.keyed

theorem trans (h : GrowsBy P b b') (k : GrowsBy P b' b'') : GrowsBy P b b'' where
  bucket place := by
    obtain ⟨first, same, one⟩ := h.bucket place
    obtain ⟨second, same', two⟩ := k.bucket place
    exact ⟨first ++ second, by rw [same', same, List.append_assoc],
      List.forall_mem_append.mpr ⟨one, two⟩⟩
  aggregations := by
    obtain ⟨first, same, one⟩ := h.aggregations
    obtain ⟨second, same', two⟩ := k.aggregations
    exact ⟨first ++ second, by rw [same', same, List.append_assoc],
      List.forall_mem_append.mpr ⟨one, two⟩⟩
  keyed := k.keyed ∘ h.keyed

theorem refs_subset (h : GrowsBy P b b') : b.refs ⊆ b'.refs := by
  intro r named
  rcases mem_refs.mp named with ⟨k, c, mem, named⟩ | ⟨a, mem, named⟩
  · obtain ⟨added, same, -⟩ := h.bucket k
    exact mem_refs.mpr (.inl ⟨k, c, by rw [same]; exact List.mem_append_left _ mem, named⟩)
  · obtain ⟨added, same, -⟩ := h.aggregations
    exact mem_refs.mpr (.inr ⟨a, by rw [same]; exact List.mem_append_left _ mem, named⟩)

theorem refs_of (h : GrowsBy P b b') (named : r ∈ b'.refs) : r ∈ b.refs ∨ P r := by
  rcases mem_refs.mp named with ⟨k, c, mem, named⟩ | ⟨a, mem, named⟩
  · obtain ⟨added, same, refer⟩ := h.bucket k
    rw [same] at mem
    rcases List.mem_append.mp mem with mem | mem
    · exact .inl (mem_refs.mpr (.inl ⟨k, c, mem, named⟩))
    · exact .inr (refer c mem r named)
  · obtain ⟨added, same, refer⟩ := h.aggregations
    rw [same] at mem
    rcases List.mem_append.mp mem with mem | mem
    · exact .inl (mem_refs.mpr (.inr ⟨a, mem, named⟩))
    · exact .inr (refer a mem r named)

theorem aggregations_place (b : Builder) (clauses : List (Bucket × Clause)) :
    (b.place clauses).aggregations = b.aggregations := by
  unfold place
  induction clauses generalizing b with
  | nil => rfl
  | cons c rest ih =>
    rw [List.foldl_cons, ih]
    cases c.1 <;> rfl

theorem place {clauses : List (Bucket × Clause)} (refer : ∀ c ∈ clauses, ∀ r ∈ c.2.refs, P r) :
    GrowsBy P b (b.place clauses) where
  bucket k := by
    refine ⟨_, bucket_place b clauses k, fun c mem => ?_⟩
    obtain ⟨placed, kept, rfl⟩ := List.mem_map.mp mem
    exact refer placed (List.mem_filter.mp kept).1
  aggregations := ⟨[], by rw [aggregations_place, List.append_nil], nofun⟩
  keyed h := by rwa [Keyed, aggregations_place]

theorem append {clauses : List Clause} (k : Bucket) (refer : ∀ c ∈ clauses, ∀ r ∈ c.refs, P r) :
    GrowsBy P b (b.append k clauses) where
  bucket other := by
    by_cases same : other = k
    · subst same
      exact ⟨clauses, bucket_append_self b other clauses, refer⟩
    · exact ⟨[], by rw [bucket_append_of_ne b clauses same, List.append_nil], nofun⟩
  aggregations := ⟨[], by cases k <;> simp [Builder.append], nofun⟩
  keyed h := by cases k <;> exact h

theorem withAggregation {a : Aggregation} (isKey : Aggregation.IsKey a.key)
    (refer : ∀ r ∈ a.refs, P r) (h : b.withAggregation a = .ok b') : GrowsBy P b b' := by
  unfold Builder.withAggregation at h
  split at h
  · cases h
  · rename_i fresh
    cases h
    refine ⟨fun k => ⟨[], by cases k <;> simp [Builder.bucket], nofun⟩,
      ⟨[a], rfl, List.forall_mem_singleton.mpr refer⟩, fun ⟨distinct, keys⟩ => ⟨?_, ?_⟩⟩
    · simp only [List.any_eq_true, decide_eq_true_eq, not_exists, not_and] at fresh
      rw [List.map_append, List.nodup_append]
      refine ⟨distinct, by simp, fun key mem other last => ?_⟩
      obtain ⟨earlier, there, rfl⟩ := List.mem_map.mp mem
      obtain rfl := List.mem_singleton.mp last
      exact fresh earlier there
    · exact List.forall_mem_append.mpr ⟨keys, List.forall_mem_singleton.mpr isKey⟩

theorem settle {outcome : Except Error Builder} (h : GivesOnly (GrowsBy P b) outcome) :
    GrowsBy P b (Edit.settle b outcome).2 := by
  cases outcome with
  | error e => exact .refl P b
  | ok after => exact h after rfl

end GrowsBy

end Builder

open Builder

namespace Edit

def criterionOf (kind : Value) (arguments : Arguments Value) : Except Error Criterion := do
  let kind ← kind.clauseKind
  (Criterion.ofKind kind).read arguments

def criterionRefs : Except Error Criterion → List Ref
  | .ok c => c.handed
  | .error _ => []

def handed : Edit → List Ref
  | clause c _ => c.refs
  | criterion c => c.handed
  | withOptions kind arguments _ | filter kind arguments _ =>
    criterionRefs (criterionOf kind arguments)
  | aggregation _ _ args sub => args.builder?.toList ++ sub.builder?.toList
  | _ => []

variable {store : Store} {self : Ref} {b : Builder} {kind : Value} {arguments : Arguments Value}

theorem refer_clausesOf {clauses : List (Bucket × Clause)}
    (h : clausesOf store self kind arguments = .ok clauses) :
    ∀ c ∈ clauses, c.2.refs ⊆ criterionRefs (criterionOf kind arguments) := by
  obtain ⟨kind, named, h⟩ := bind_eq_ok.mp h
  obtain ⟨c, read, h⟩ := bind_eq_ok.mp h
  have same : criterionOf _ arguments = .ok c := bind_eq_ok.mpr ⟨kind, named, read⟩
  rw [same]
  exact Criterion.refer_clauses h

theorem grows_filtered {bucket : Value} :
    GivesOnly (GrowsBy (· ∈ criterionRefs (criterionOf kind arguments)) b)
      (b.filtered store self kind arguments bucket) := by
  intro after h
  obtain ⟨target, -, h⟩ := bind_eq_ok.mp h
  obtain ⟨-, h⟩ := unless_eq_ok.mp h
  obtain ⟨clauses, made, h⟩ := bind_eq_ok.mp h
  obtain rfl := pure_eq_ok.mp h
  have refer := refer_clausesOf made
  refine .trans (.place fun c mem => refer c (List.mem_filter.mp mem).1) (.append target ?_)
  intro c mem
  obtain ⟨placed, kept, rfl⟩ := List.mem_map.mp mem
  exact refer placed (List.mem_filter.mp kept).1

theorem grows_withClauseOptions {options : Value} :
    GrowsBy (· ∈ criterionRefs (criterionOf kind arguments)) b
      (b.withClauseOptions store self kind arguments options).2 := by
  unfold Builder.withClauseOptions
  split
  · exact .refl _ b
  · rename_i clauses made
    have refer := refer_clausesOf made
    split
    · refine .place fun c mem => ?_
      obtain ⟨placed, there, rfl⟩ := List.mem_map.mp mem
      exact refer placed there
    · exact .place refer

theorem grows_withPage {P : Ref → Prop} (page perPage : Value) :
    GrowsBy P b (b.withPage page perPage).2 := by
  unfold Builder.withPage
  split
  · exact .refl P b
  · rename_i moved h
    obtain ⟨start, -, h⟩ := bind_eq_ok.mp h
    obtain ⟨before, -, h⟩ := bind_eq_ok.mp h
    obtain rfl := pure_eq_ok.mp h
    have begun : GrowsBy P b { b with offset := before.toNat } :=
      .of_same (fun k => by cases k <;> rfl) rfl
    exact begun.trans (.settle (.bind fun _ _ => .ok (.of_same (fun k => by cases k <;> rfl) rfl)))

theorem builder?_of_subOf {key v : Value} {sub : Option Ref}
    (h : subOf key v = .ok sub) : v.builder?.toList = sub.toList := by
  unfold subOf at h
  split at h <;> cases h <;> rfl

/-- The builder after an edit has the clauses and the aggregations that it had, and behind them new
ones that refer to no builder but those handed over. -/
theorem apply_grows (store : Store) (self : Ref) (b : Builder) (edit : Edit) :
    GrowsBy (· ∈ edit.handed) b (edit.apply store self b).2 := by
  have same : ∀ {b' : Builder}, b'.wheres = b.wheres → b'.filters = b.filters →
      b'.postFilters = b.postFilters → b'.aggregations = b.aggregations → GrowsBy (· ∈ []) b b' :=
    fun wheres filters postFilters => .of_same fun k => by cases k <;> assumption
  cases edit with
  | index | routing | parentId | expandInnerHits => exact same rfl rfl rfl rfl
  | select columns =>
    refine .settle fun after h => ?_
    unfold withColumns at h
    split at h
    · cases h
      exact same rfl rfl rfl rfl
    · obtain ⟨_, -, h⟩ := bind_eq_ok.mp h
      obtain rfl := pure_eq_ok.mp h
      exact same rfl rfl rfl rfl
    · cases h
      exact same rfl rfl rfl rfl
  | limit v => exact .settle (.bind fun _ _ => .ok (same rfl rfl rfl rfl))
  | offset v => exact .settle (.bind fun _ _ => .ok (same rfl rfl rfl rfl))
  | page p perPage => exact grows_withPage p perPage
  | refresh option | conflicts option =>
    refine .settle ?_
    dsimp only [withRefresh, withConflicts]
    split
    · exact .ok (same rfl rfl rfl rfl)
    · exact .error _
  | clause c bucket =>
    refine .settle (.bind fun k _ => .ok (.append k ?_))
    exact List.forall_mem_singleton.mpr fun _ mem => mem
  | criterion c =>
    exact .settle (.bind fun clauses made => .ok (.place (Criterion.refer_clauses made)))
  | withOptions kind arguments options => exact grows_withClauseOptions
  | filter kind arguments bucket => exact .settle grows_filtered
  | aggregation key type args sub =>
    refine .settle (.bind fun inside named => .bind fun a made => ?_)
    obtain ⟨isKey, refs⟩ := Aggregation.make_eq_ok made
    refine fun after => .withAggregation isKey ?_
    rw [refs, handed, builder?_of_subOf named]
    exact fun r named => named
  | order column direction options =>
    exact .settle (.bind fun _ _ => .ok (same rfl rfl rfl rfl))

end Edit

end DocumentSearch
