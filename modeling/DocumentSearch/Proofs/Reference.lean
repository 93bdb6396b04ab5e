import DocumentSearch.Proofs.Matching.Bucket

/-!
# References between builders

The fragments of a builder need those of the builders that its clauses refer to, and nothing else of
the store. Once they can be written within some depth of references, a greater depth gives the same
fragments.
-/
namespace DocumentSearch

open Outcome

namespace Dialect

variable {d : Dialect} {written other : Ref → Except Error Conditions}

theorem clauseFragment_eq_ok {c : Clause} {f : Entries} :
    d.clauseFragment written c = .ok f ↔ d.supports c.kind = true ∧
      d.conditionFragment written c.options c.negated.truthy c.condition = .ok f := by
  unfold clauseFragment
  split <;> simp [*]

theorem written_of_conditionFragment {options f : Entries} {negated : Bool} {c : Condition}
    (h : d.conditionFragment written options negated c = .ok f) {ref : Ref}
    (refers : c.query? = some ref) : ∃ inner, written ref = .ok inner := by
  cases c <;> cases refers
  all_goals
    obtain ⟨inner, hi, -⟩ := bind_eq_ok.mp h
    exact ⟨inner, hi⟩

theorem written_of_clauseFragment {c : Clause} {f : Entries}
    (h : d.clauseFragment written c = .ok f) {ref : Ref} (refers : c.condition.query? = some ref) :
    ∃ inner, written ref = .ok inner :=
  written_of_conditionFragment (clauseFragment_eq_ok.mp h).2 refers

theorem conditionFragment_mono {options f : Entries} {negated : Bool} {c : Condition}
    (h : d.conditionFragment written options negated c = .ok f)
    (same : ∀ ref inner, written ref = .ok inner → other ref = .ok inner) :
    d.conditionFragment other options negated c = .ok f := by
  cases c with
  | group query part =>
    obtain ⟨inner, hi, h⟩ := bind_eq_ok.mp h
    exact bind_eq_ok.mpr ⟨inner, same query inner hi, h⟩
  | nestedDocument column query =>
    obtain ⟨inner, hi, h⟩ := bind_eq_ok.mp h
    exact bind_eq_ok.mpr ⟨inner, same query inner hi, h⟩
  | negation query =>
    obtain ⟨inner, hi, h⟩ := bind_eq_ok.mp h
    exact bind_eq_ok.mpr ⟨inner, same query inner hi, h⟩
  | parent documentType query =>
    obtain ⟨inner, hi, h⟩ := bind_eq_ok.mp h
    exact bind_eq_ok.mpr ⟨inner, same query inner hi, h⟩
  | child documentType query =>
    obtain ⟨inner, hi, h⟩ := bind_eq_ok.mp h
    exact bind_eq_ok.mpr ⟨inner, same query inner hi, h⟩
  | _ => exact h

theorem bucketFragment_mono {clauses : List Clause} {f : Entries}
    (h : d.bucketFragment written clauses = .ok f)
    (same : ∀ ref inner, written ref = .ok inner → other ref = .ok inner) :
    d.bucketFragment other clauses = .ok f := by
  obtain ⟨parts, hp, rfl⟩ := (d.bucketFragment_eq_ok written).mp h
  refine (d.bucketFragment_eq_ok other).mpr ⟨parts, mapM_congr_ok hp fun c _ p hc => ?_, rfl⟩
  obtain ⟨f, hf, paired⟩ := bind_eq_ok.mp hc
  obtain ⟨supported, hf⟩ := clauseFragment_eq_ok.mp hf
  have still := clauseFragment_eq_ok.mpr ⟨supported, conditionFragment_mono hf same⟩
  exact bind_eq_ok.mpr ⟨f, still, paired⟩

theorem bucketFragments_mono {b : Builder} {c : Conditions}
    (h : d.bucketFragments written b = .ok c)
    (same : ∀ ref inner, written ref = .ok inner → other ref = .ok inner) :
    d.bucketFragments other b = .ok c := by
  simp only [bucketFragments, bind_eq_ok, pure_eq_ok] at h ⊢
  obtain ⟨query, hq, filter, hf, postFilter, hp, rfl⟩ := h
  exact ⟨query, bucketFragment_mono hq same, filter, bucketFragment_mono hf same, postFilter,
    bucketFragment_mono hp same, rfl⟩

/-- Looking further than references lead changes nothing. -/
theorem conditionsWithin_succ {store : Store} {depth : Nat} {b : Builder} {c : Conditions}
    (h : d.conditionsWithin store depth b = .ok c) :
    d.conditionsWithin store (depth + 1) b = .ok c := by
  induction depth generalizing b c with
  | zero =>
    refine bucketFragments_mono h fun ref inner hr => ?_
    cases hr
  | succ depth ih => exact bucketFragments_mono h fun ref inner hr => ih hr

/-- The fragments of a builder are made of those of the builders that it refers to. -/
theorem conditions_unfold {store : Store} {b : Builder} {c : Conditions}
    (h : d.conditions store b = .ok c) :
    d.bucketFragments (fun ref => d.conditions store (store.get ref)) b = .ok c :=
  conditionsWithin_succ h

end Dialect

end DocumentSearch
