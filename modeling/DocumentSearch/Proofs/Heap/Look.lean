import DocumentSearch.Request.Search
import DocumentSearch.Proofs.Heap.Growth

/-!
# Where a request looks

To write the request of a builder is to look at the builders that it refers to, at those that these
refer to, and so on, and at no other builder of the store.
-/
namespace DocumentSearch

theorem Outcome.foldlM_same {ε α β : Type} {f g : β → α → Except ε β} {l : List α}
    (same : ∀ b, ∀ a ∈ l, f b a = g b a) (start : β) : l.foldlM f start = l.foldlM g start := by
  induction l generalizing start with
  | nil => rfl
  | cons a l ih =>
    rw [List.foldlM_cons, List.foldlM_cons, same start a List.mem_cons_self]
    congr 1
    funext b
    exact ih (fun b other mem => same b other (List.mem_cons_of_mem _ mem)) b

open Outcome

namespace Dialect

variable {d : Dialect} {sub sub' : Ref → Except Error Conditions}

theorem conditionFragment_same {c : Condition} (same : ∀ r ∈ c.query?, sub r = sub' r)
    (options : Entries) (negated : Bool) :
    d.conditionFragment sub options negated c = d.conditionFragment sub' options negated c := by
  cases c with
  | group query | nestedDocument column query | negation query | parent documentType query
  | child documentType query => simp only [conditionFragment, same query rfl]
  | _ => rfl

theorem bucketFragment_same {clauses : List Clause}
    (same : ∀ c ∈ clauses, ∀ r ∈ c.refs, sub r = sub' r) :
    d.bucketFragment sub clauses = d.bucketFragment sub' clauses := by
  have each : ∀ j, ∀ c ∈ clauses, d.addClause sub j c = d.addClause sub' j c := by
    intro j c mem
    have fragment : d.clauseFragment sub c = d.clauseFragment sub' c := by
      unfold clauseFragment
      rw [conditionFragment_same fun r named => same c mem r (Option.mem_toList.mpr named)]
    rw [addClause, addClause, fragment]
  rw [bucketFragment, bucketFragment, foldlM_same each]

theorem bucketFragments_same {b : Builder} (same : ∀ r ∈ b.refs, sub r = sub' r) :
    d.bucketFragments sub b = d.bucketFragments sub' b := by
  have bucket : ∀ k, d.bucketFragment sub (b.bucket k) = d.bucketFragment sub' (b.bucket k) :=
    fun k => bucketFragment_same fun c mem r named =>
      same r (Builder.mem_refs.mpr (.inl ⟨k, c, mem, named⟩))
  have query := bucket .query
  have filter := bucket .filter
  have postFilter := bucket .postFilter
  simp only [Builder.bucket] at query filter postFilter
  rw [bucketFragments, bucketFragments, query, filter, postFilter]

theorem fragment_same {a : Aggregation} (same : ∀ r, a.args = .builder r → sub r = sub' r)
    (pattern : Value) : a.fragment pattern sub = a.fragment pattern sub' := by
  unfold Aggregation.fragment
  split <;> try rfl
  split
  · rename_i r args
    rw [same r args]
  · rfl

theorem aggregationWith_same {s t : Store} {inside inside' : Builder → Except Error Entries}
    {a : Aggregation}
    (filter : ∀ r, a.args = .builder r → d.conditions s (s.get r) = d.conditions t (t.get r))
    (empty : ∀ r, a.sub = some r →
      (s.get r).aggregations.isEmpty = (t.get r).aggregations.isEmpty)
    (inner : ∀ r, a.sub = some r → inside (s.get r) = inside' (t.get r)) :
    d.aggregationWith s inside a = d.aggregationWith t inside' a := by
  have own : a.fragment d.datePattern (fun r => d.conditions s (s.get r)) =
      a.fragment d.datePattern (fun r => d.conditions t (t.get r)) :=
    fragment_same filter d.datePattern
  unfold aggregationWith Aggregation.hasSub
  rw [own]
  cases sub : a.sub with
  | none => rfl
  | some r => simp only [empty r sub, inner r sub]

theorem aggregationsWith_same {s t : Store} {inside inside' : Builder → Except Error Entries}
    {b : Builder} (each : ∀ a ∈ b.aggregations,
      d.aggregationWith s inside a = d.aggregationWith t inside' a) :
    d.aggregationsWith s inside b = d.aggregationsWith t inside' b :=
  foldlM_same (fun written a mem => by rw [each a mem]) []

end Dialect

end DocumentSearch
