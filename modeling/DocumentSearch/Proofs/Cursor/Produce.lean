import DocumentSearch.Proofs.Cursor.Exchange
import DocumentSearch.Proofs.Cursor.Step

/-!
# What a cursor gives up to its end

A cursor that gives its hits one by one and then ends is driven to its end by any number of steps
that suffices. The hits of a cursor that has come to its scroll are those of the scroll behind the
skipped ones.
-/
namespace DocumentSearch

variable {σ γ : Type}

/-- Step by step a cursor gives some hits, and then it ends. -/
inductive Produces (pull : σ → γ → Pull × σ × γ) : σ → γ → List Value → σ → γ → Prop
  | ends {s t : σ} {c d : γ} (stop : pull s c = (.ok none, t, d)) : Produces pull s c [] t d
  | gives {s t u : σ} {c d e : γ} {hit : Value} {hits : List Value}
      (step : pull s c = (.ok (some hit), t, d)) (rest : Produces pull t d hits u e) :
      Produces pull s c (hit :: hits) u e

variable {pull : σ → γ → Pull × σ × γ} {s t u : σ} {c d e : γ} {hits : List Value}

theorem Produces.congr (h : Produces pull t d hits u e) (same : pull s c = pull t d) :
    Produces pull s c hits u e := by
  cases h with
  | ends stop => exact .ends (same.trans stop)
  | gives step rest => exact .gives (same.trans step) rest

theorem Produces.exhaust (h : Produces pull s c hits t d) {n : Nat} (enough : hits.length < n) :
    exhaust pull n s c = (.ok hits, t, d) := by
  induction h generalizing n with
  | ends stop =>
    obtain ⟨n, rfl⟩ : ∃ m, n = m + 1 := ⟨n - 1, by omega⟩
    simp only [DocumentSearch.exhaust, stop]
  | gives step rest ih =>
    obtain ⟨n, rfl⟩ : ∃ m, n = m + 1 := ⟨n - 1, by omega⟩
    rw [List.length_cons] at enough
    simp only [DocumentSearch.exhaust, step, ih (by omega : _ < n)]

namespace Cursor

/-- Behind the first batch a cursor gives what its scroll gives, without what is still to be
skipped. -/
theorem produces_further {scroll : Scroll} {c d : Connection} {hits : List Value} {t : Scroll}
    (h : Produces Scroll.next scroll c hits t d) (skip consumed : Nat) :
    Produces next (further scroll skip consumed) c (hits.drop (skip - consumed)) finished d := by
  induction h generalizing consumed with
  | ends stop =>
    rw [List.drop_nil]
    refine .ends ?_
    rw [next, nextFurther, stop]
  | @gives s t u c d e hit hits step rest ih =>
    by_cases behind : skip < consumed + 1
    · have none : skip - consumed = 0 := by omega
      have onwards := ih (consumed + 1)
      rw [show skip - (consumed + 1) = 0 by omega] at onwards
      rw [none]
      refine .gives ?_ onwards
      rw [next, nextFurther, step]
      simp only [behind, if_true]
    · have some : skip - consumed = (skip - (consumed + 1)) + 1 := by omega
      rw [some, List.drop_succ_cons]
      refine (ih (consumed + 1)).congr ?_
      rw [next, nextFurther, step]
      simp only [behind, if_false]
      rfl

end Cursor

end DocumentSearch
