import DocumentSearch.Execution.Read
import DocumentSearch.Proofs.Outcome
import DocumentSearch.Proofs.Paging.Quotient

/-!
# Cutting documents into pages

Pages of one length cut documents into stretches that follow each other. As many pages as are
counted hold all of them, and all pages but the last are full.
-/
namespace DocumentSearch

open Outcome

namespace Page

variable {α : Type} {all : List α} {perPage page : ℕ}

/-- What is on a page; pages are counted from 1. -/
def slice (all : List α) (perPage page : ℕ) : List α := (all.drop ((page - 1) * perPage)).take perPage

theorem flatMap_slice (all : List α) (perPage count : ℕ) :
    (List.range count).flatMap (fun k => slice all perPage (k + 1)) = all.take (count * perPage) := by
  induction count with
  | zero => simp
  | succ count ih =>
    have more : (count + 1) * perPage = count * perPage + perPage := by ring
    rw [List.range_succ, List.flatMap_append, ih, more, List.take_add]
    simp [slice]

theorem length_slice (first : 1 ≤ page) (full : page * perPage ≤ all.length) :
    (slice all perPage page).length = perPage := by
  obtain ⟨k, rfl⟩ : ∃ k, page = k + 1 := ⟨page - 1, by omega⟩
  have more : (k + 1) * perPage = k * perPage + perPage := by ring
  simp only [slice, List.length_take, List.length_drop, Nat.add_sub_cancel]
  omega

theorem slice_eq_nil (past : all.length ≤ (page - 1) * perPage) : slice all perPage page = [] := by
  rw [slice, List.drop_eq_nil_of_le past, List.take_nil]

def documents (p : Page) : List Value := (p.items.list?).getD []

/-- A page of some documents as it should be. A number below 1 stands for the first page. -/
structure Shows (p : Page) (docs : List Value) (perPage : ℕ) (page : ℤ) : Prop where
  items : p.items = .list (slice docs perPage (max page 1).toNat)
  total : p.total = .int docs.length
  number : p.page = .int (max page 1)
  length : p.perPage = .int perPage
  lastPage : p.lastPage = max ((docs.length : ℚ) / perPage).ceil 1
  hasNext : p.hasNext = true ↔ max page 1 * perPage < docs.length
  hasPrevious : p.hasPrevious = true ↔ 1 < page

theorem Shows.documents_eq {p : Page} {docs : List Value} {page : ℤ}
    (h : p.Shows docs perPage page) : p.documents = slice docs perPage (max page 1).toNat := by
  rw [documents, h.items]
  rfl

/-- The pages of one length cut the documents up without loss or repetition. -/
structure Cut (docs : List Value) (perPage last : ℕ) (pages : ℕ → List Value) : Prop where
  together : (List.range last).flatMap (fun k => pages (k + 1)) = docs
  full : ∀ page, 1 ≤ page → page < last → (pages page).length = perPage
  past : ∀ page, last < page → pages page = []

theorem cut_of_shows {docs : List Value} {pages : ℤ → Page} (pos : 0 < perPage)
    (shows : ∀ page, (pages page).Shows docs perPage page) {last : ℕ}
    (count : (last : ℤ) = countOf docs.length perPage) :
    Cut docs perPage last fun page => (pages page).documents := by
  have documents : ∀ page : ℕ, 1 ≤ page →
      (pages page).documents = slice docs perPage page := fun page first => by
    rw [(shows page).documents_eq, max_eq_left (by omega), Int.toNat_natCast]
  have positive : 1 ≤ last := by
    have : (1 : ℤ) ≤ countOf docs.length perPage := le_max_right _ _
    omega
  have within : ∀ page : ℕ, 1 ≤ page → (page < last ↔ page * perPage < docs.length) :=
    fun page first => by
      have below : (page : ℤ) < countOf docs.length perPage ↔ (page : ℤ) * perPage < docs.length :=
        lt_countOf pos (by omega)
      rw [← count] at below
      exact_mod_cast below
  have enough : docs.length ≤ last * perPage := by
    have := within last positive
    omega
  refine ⟨?_, fun page first before => ?_, fun page past => ?_⟩
  · have slices : (fun k : ℕ => (pages ((k + 1 : ℕ) : ℤ)).documents) =
        fun k => slice docs perPage (k + 1) := funext fun k => documents (k + 1) (by omega)
    rw [slices, flatMap_slice, List.take_of_length_le enough]
  · rw [documents page first, length_slice first (by have := (within page first).mp before; omega)]
  · rw [documents page (by omega)]
    refine slice_eq_nil (enough.trans ?_)
    exact Nat.mul_le_mul_right perPage (by omega)

variable {total : ℕ} {docs : List Value}

theorem of_int (small : total < 2 ^ 53) (pos : 0 < perPage) (number : ℤ)
    (items aggregations took : Value) :
    of items (.int total) (.int number) (.int perPage) aggregations took =
      .ok ⟨items, .int total, .int number, .int perPage, countOf total perPage,
        decide (number < countOf total perPage), decide (1 < number), aggregations, took⟩ :=
  bind_eq_ok.mpr ⟨.int perPage, rfl,
    bind_eq_ok.mpr ⟨_, lastPageOf_int small pos, bind_eq_ok.mpr ⟨.int number, rfl, rfl⟩⟩⟩

theorem pageOf_shows {b : Builder} (total : b.summary.total = .ok (.int docs.length))
    (small : docs.length < 2 ^ 53) (pos : 0 < perPage) (page : ℤ) :
    ∃ p, b.pageOf (slice docs perPage (max page 1).toNat) (.int page) (.int perPage) = .ok p ∧
      p.Shows docs perPage page := by
  have numbered : Value.ofNumber ((Number.int 1).max (.int page)) = .int (max page 1) := by
    rw [Number.max_int, max_comm]
    rfl
  have made := of_int small pos (max page 1) (.list (slice docs perPage (max page 1).toNat))
    (b.summary.aggregations.orElse .null) b.summary.took
  rw [← numbered] at made
  refine ⟨_, bind_eq_ok.mpr ⟨_, lift_eq_ok.mpr total, bind_eq_ok.mpr ⟨.int page, rfl, made⟩⟩,
    rfl, rfl, rfl, rfl, rfl, ?_, ?_⟩
  · rw [decide_eq_true_eq, lt_countOf pos (le_max_right _ _)]
  · rw [decide_eq_true_eq]
    omega

end Page

end DocumentSearch
