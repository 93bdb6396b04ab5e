import DocumentSearch.Proofs.Calendar.Chronology
import DocumentSearch.Proofs.Calendar.Stamp

/-!
# Reading moments in the default pattern

The six numbers of a moment in the default pattern are what stands between its marks, however many
digits the year has. They give the moment back down to its second, so that texts in the pattern can
be compared in time.
-/
namespace DocumentSearch

theorem isDigit_of_mem_padded {width n : Nat} {c : Char} (mem : c ∈ padded width n) :
    c.isDigit = true := by
  rcases List.mem_append.mp mem with filled | shown
  · rw [List.eq_of_mem_replicate filled]
    rfl
  · exact Nat.isDigit_of_mem_toDigits (by decide) (by decide) shown

theorem ofDigitChars_padded (width n : Nat) : Nat.ofDigitChars 10 (padded width n) 0 = n := by
  simp only [padded, Nat.ofDigitChars_append, Nat.ofDigitChars_replicate_zero, Nat.mul_zero,
    Nat.ofDigitChars_ten_toDigits]

/-- The numbers between marks that are no digits. -/
def numbersIn (cs : List Char) : List Nat :=
  (cs.splitOnP fun c => !c.isDigit).map fun digits => Nat.ofDigitChars 10 digits 0

theorem numbersIn_padded (width n : Nat) : numbersIn (padded width n) = [n] := by
  have whole : ∀ c ∈ padded width n, (!c.isDigit) = false := fun c mem => by
    rw [isDigit_of_mem_padded mem, Bool.not_true]
  rw [numbersIn, List.splitOnP_eq_singleton whole, List.map_singleton, ofDigitChars_padded]

theorem numbersIn_padded_append (width n : Nat) {mark : Char} (plain : mark.isDigit = false)
    (rest : List Char) : numbersIn (padded width n ++ mark :: rest) = n :: numbersIn rest := by
  have first : ∀ c ∈ padded width n, (!c.isDigit) = false := fun c mem => by
    rw [isDigit_of_mem_padded mem, Bool.not_true]
  rw [numbersIn, List.splitOnP_append_cons_of_forall_mem first mark (by rw [plain, Bool.not_false]),
    List.map_cons, ofDigitChars_padded, numbersIn]

theorem Date.of?_self (d : Date) : Date.of? d.year d.month d.day = some d :=
  dif_pos ⟨d.year_bounds, d.month_bounds, d.day_bounds⟩

namespace Moment

variable (m : Moment)

/-- The six numbers of a moment can be read from its text. -/
theorem numbersIn_stamp :
    numbersIn m.stamp = [m.date.year, m.date.month, m.date.day, m.hour, m.minute, m.second] := by
  rw [stamp, numbersIn_padded_append _ _ (by decide), numbersIn_padded_append _ _ (by decide),
    numbersIn_padded_append _ _ (by decide), numbersIn_padded_append _ _ (by decide),
    numbersIn_padded_append _ _ (by decide), numbersIn_padded]

/-- A moment without what is smaller than a second, and without an offset. -/
def toSecond : Moment := { m with microsecond := 0, offset := none, microsecond_lt := Nat.succ_pos _ }

/-- The moment that a text in the default pattern stands for. -/
def ofStamp? (text : String) : Option Moment :=
  match numbersIn text.toList with
  | [year, month, day, hour, minute, second] => do
    Moment.of? (← Date.of? year month day) hour minute second 0 none
  | _ => none

/-- A text in the default pattern is read as the moment that it was written for, to the second. -/
theorem ofStamp?_format : ofStamp? (m.format Value.defaultDatePattern) = some m.toSecond := by
  rw [format_default, ofStamp?, String.toList_ofList, numbersIn_stamp]
  dsimp only
  rw [Date.of?_self, Option.bind_eq_bind, Option.bind_some]
  exact dif_pos ⟨m.hour_lt, m.minute_lt, m.second_lt, by decide⟩

/-- Of three texts in the default pattern, the last is neither before the first in time nor after
the second. -/
def Between (low high text : String) : Prop :=
  ∃ l h t, ofStamp? low = some l ∧ ofStamp? high = some h ∧ ofStamp? text = some t ∧
    l.sinceEpoch ≤ t.sinceEpoch ∧ t.sinceEpoch ≤ h.sinceEpoch

theorem between_format (low high : Moment) :
    Between (low.format Value.defaultDatePattern) (high.format Value.defaultDatePattern)
        (m.format Value.defaultDatePattern) ↔
      low.sinceEpoch ≤ m.sinceEpoch ∧ m.sinceEpoch ≤ high.sinceEpoch := by
  simp only [Between, ofStamp?_format, Option.some.injEq]
  constructor
  · rintro ⟨_, _, _, rfl, rfl, rfl, after, before⟩
    exact ⟨after, before⟩
  · rintro ⟨after, before⟩
    exact ⟨_, _, _, rfl, rfl, rfl, after, before⟩

end Moment

end DocumentSearch
