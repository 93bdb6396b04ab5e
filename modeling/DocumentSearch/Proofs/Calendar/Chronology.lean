import Mathlib.Algebra.GroupWithZero.Nat
import DocumentSearch.Calendar.Format

/-!
# The order of days and moments

Days are numbered in the order of year, month and day, and moments are counted in seconds from
there. So a day is told by its number, and a moment down to its second by its count.
-/
namespace DocumentSearch

theorem foldl_add_eq {α : Type} (f : α → Nat) (items : List α) (start : Nat) :
    items.foldl (fun past a => past + f a) start = start + (items.map f).sum := by
  induction items generalizing start with
  | nil => rfl
  | cons a items ih => rw [List.foldl_cons, ih, List.map_cons, List.sum_cons, Nat.add_assoc]

namespace Date

/-- The days of the first months of a year. -/
def daysOfMonths (year count : Nat) : Nat :=
  ((List.range count).map fun m => daysInMonth year (m + 1)).sum

theorem daysOfMonths_succ (year count : Nat) :
    daysOfMonths year (count + 1) = daysOfMonths year count + daysInMonth year (count + 1) := by
  simp [daysOfMonths, List.range_succ]

theorem daysOfMonths_mono (year : Nat) {few many : Nat} (le : few ≤ many) :
    daysOfMonths year few ≤ daysOfMonths year many := by
  induction le with
  | refl => exact Nat.le_refl _
  | step _ ih =>
    rw [daysOfMonths_succ]
    omega

def daysBefore (year : Nat) : Nat :=
  365 * (year - 1) + (year - 1) / 4 - (year - 1) / 100 + (year - 1) / 400

def daysOfYear (year : Nat) : Nat := if isLeapYear year then 366 else 365

theorem daysOfMonths_twelve (year : Nat) : daysOfMonths year 12 = daysOfYear year := by
  unfold daysOfYear
  cases leap : isLeapYear year <;> simp [daysOfMonths, List.range_succ, daysInMonth, leap]

/-- Leap days are counted with the years that have passed. -/
theorem daysBefore_succ {year : Nat} (positive : 1 ≤ year) :
    daysBefore (year + 1) = daysBefore year + daysOfYear year := by
  obtain ⟨past, rfl⟩ : ∃ past, year = past + 1 := ⟨year - 1, by omega⟩
  have hundreds : (past + 1) % 100 = 0 → (past + 1) % 4 = 0 := by omega
  have cycles : (past + 1) % 400 = 0 → (past + 1) % 100 = 0 := by omega
  have fewer : past / 100 ≤ past / 4 := Nat.div_le_div_left (by decide) (by decide)
  simp only [daysBefore, daysOfYear, isLeapYear, Nat.add_sub_cancel, Nat.succ_div,
    Nat.dvd_iff_mod_eq_zero, Bool.and_eq_true, Bool.or_eq_true, decide_eq_true_eq]
  generalize past / 4 = fours, past / 100 = centuries, past / 400 = periods at *
  by_cases fourth : (past + 1) % 4 = 0
  · by_cases hundredth : (past + 1) % 100 = 0
    · by_cases last : (past + 1) % 400 = 0 <;>
        simp only [fourth, hundredth, last, ne_eq, not_true, false_or, and_true, and_false,
          if_true, if_false] <;> omega
    · simp only [fourth, hundredth, mt cycles hundredth, ne_eq, not_false_iff, true_or, and_true,
        if_true, if_false]
      omega
  · simp only [fourth, mt hundreds fourth, mt cycles (mt hundreds fourth), false_and, if_false]
    omega

theorem daysBefore_mono {early late : Nat} (positive : 1 ≤ early) (le : early ≤ late) :
    daysBefore early ≤ daysBefore late := by
  induction le with
  | refl => exact Nat.le_refl _
  | step le ih =>
    rw [daysBefore_succ (Nat.le_trans positive le)]
    omega

variable {d e : Date}

theorem dayOfYear_eq (d : Date) : d.dayOfYear = d.day + daysOfMonths d.year (d.month - 1) :=
  foldl_add_eq _ _ _

theorem dayOfYear_le (d : Date) : d.dayOfYear ≤ daysOfMonths d.year d.month := by
  have month : d.month = d.month - 1 + 1 := by
    have := d.month_bounds
    omega
  rw [dayOfYear_eq, month, daysOfMonths_succ, ← month, Nat.add_comm]
  exact Nat.add_le_add_left d.day_bounds.2 _

theorem dayOfYear_le_daysOfYear (d : Date) : d.dayOfYear ≤ daysOfYear d.year := by
  rw [← daysOfMonths_twelve]
  exact Nat.le_trans d.dayOfYear_le (daysOfMonths_mono _ d.month_bounds.2)

theorem one_le_dayOfYear (d : Date) : 1 ≤ d.dayOfYear := by
  have := d.day_bounds
  rw [dayOfYear_eq]
  omega

theorem ordinal_eq (d : Date) : d.ordinal = daysBefore d.year + d.dayOfYear := rfl

theorem ordinal_lt_of_year (later : d.year < e.year) : d.ordinal < e.ordinal := by
  have whole : daysBefore (d.year + 1) = daysBefore d.year + daysOfYear d.year :=
    daysBefore_succ d.year_bounds.1
  have years : daysBefore (d.year + 1) ≤ daysBefore e.year := daysBefore_mono (by omega) later
  have within := d.dayOfYear_le_daysOfYear
  have started := e.one_le_dayOfYear
  rw [ordinal_eq, ordinal_eq]
  omega

theorem ordinal_lt_of_month (year : d.year = e.year) (later : d.month < e.month) :
    d.ordinal < e.ordinal := by
  have within := d.dayOfYear_le
  have months : daysOfMonths d.year d.month ≤ daysOfMonths e.year (e.month - 1) :=
    year ▸ daysOfMonths_mono _ (by omega)
  have started := e.day_bounds.1
  rw [ordinal_eq, ordinal_eq, year, dayOfYear_eq e]
  omega

theorem ordinal_lt_of_day (year : d.year = e.year) (month : d.month = e.month)
    (later : d.day < e.day) : d.ordinal < e.ordinal := by
  rw [ordinal_eq, ordinal_eq, dayOfYear_eq, dayOfYear_eq, year, month]
  omega

theorem eq_of_ordinal (same : d.ordinal = e.ordinal) : d = e := by
  have year : d.year = e.year := by
    rcases Nat.lt_trichotomy d.year e.year with before | same_year | after
    · exact absurd same (Nat.ne_of_lt (ordinal_lt_of_year before))
    · exact same_year
    · exact absurd same.symm (Nat.ne_of_lt (ordinal_lt_of_year after))
  have month : d.month = e.month := by
    rcases Nat.lt_trichotomy d.month e.month with before | same_month | after
    · exact absurd same (Nat.ne_of_lt (ordinal_lt_of_month year before))
    · exact same_month
    · exact absurd same.symm (Nat.ne_of_lt (ordinal_lt_of_month year.symm after))
  have day : d.day = e.day := by
    rcases Nat.lt_trichotomy d.day e.day with before | same_day | after
    · exact absurd same (Nat.ne_of_lt (ordinal_lt_of_day year month before))
    · exact same_day
    · exact absurd same.symm (Nat.ne_of_lt (ordinal_lt_of_day year.symm month.symm after))
  cases d
  cases e
  simp_all

end Date

namespace Moment

theorem sinceEpoch_eq_iff {t u : Moment} :
    t.sinceEpoch = u.sinceEpoch ↔
      t.date = u.date ∧ t.hour = u.hour ∧ t.minute = u.minute ∧ t.second = u.second := by
  constructor
  · intro same
    have bounds := And.intro t.minute_lt t.second_lt
    have others := And.intro u.minute_lt u.second_lt
    have hours := And.intro t.hour_lt u.hour_lt
    unfold sinceEpoch at same
    refine ⟨Date.eq_of_ordinal (by omega), by omega, by omega, by omega⟩
  · rintro ⟨date, hour, minute, second⟩
    simp only [sinceEpoch, date, hour, minute, second]

end Moment

end DocumentSearch
