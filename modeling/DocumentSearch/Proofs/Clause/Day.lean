import DocumentSearch.Proofs.Calendar.Reread
import DocumentSearch.Proofs.Matching.Opposed

/-!
# Days as ranges

A field that is compared with a plain date is compared with a range that has the date for both of
its ends. In the default pattern the date is written as the midnight that the day begins with, so
that of the moments of the day those of its first second are in the range, and no others.
-/
namespace DocumentSearch

open Fragment Outcome

namespace Dialect

def rangeBetween (column low high : String) : Entries :=
  [("range", .map [(.str column, .map [("gte", .str low), ("lte", .str high)])])]

theorem conditionFragment_day (suffix : Value) (pattern column : String) (day : Date)
    (sub : Ref → Except Error Conditions) :
    (writing suffix pattern).conditionFragment sub [] false
        (.date (.str column) .equal (.date day)) =
      .ok (rangeBetween column (day.midnight.format pattern) (day.midnight.format pattern)) := rfl

/-- A day is compared as the range that has the midnight that it begins with for both of its ends;
the operator may be left out. The moments in it are those of the first second of the day. -/
theorem range_of_day (suffix : Value) (store : Store) (self : Ref) (column : String)
    (day : Date) :
    let call := (writing suffix Value.defaultDatePattern).fragmentsWith store self [] .date
    let bound := day.midnight.format Value.defaultDatePattern
    call [column, .date day] = .ok [rangeBetween column bound bound] ∧
      call [column, "=", .date day] = .ok [rangeBetween column bound bound] ∧
      ∀ t : Moment, Moment.Between bound bound (t.format Value.defaultDatePattern) ↔
        t.date = day ∧ t.hour = 0 ∧ t.minute = 0 ∧ t.second = 0 := by
  intro call bound
  have written : ∀ arguments,
      Builder.clausesOf store self (.str ClauseKind.date.name) ⟨arguments, []⟩ =
          .ok [(.query, ⟨.conjunction, .bool false, [], .date (.str column) .equal (.date day)⟩)] →
        call arguments = .ok [rangeBetween column bound bound] := by
    intro arguments clause
    have single : call arguments = _ := fragmentsWith_single clause
    rw [single]
    change (fun f => [f]) <$> (writing suffix Value.defaultDatePattern).conditionFragment _ [] false
      _ = _
    rw [conditionFragment_day]
    rfl
  refine ⟨written _ rfl, written _ rfl, fun t => ?_⟩
  rw [Moment.between_format, ← Int.le_antisymm_iff, eq_comm, Moment.sinceEpoch_eq_iff]
  rfl

def march : Date := ⟨2024, 3, 1, by decide, by decide, by decide⟩

/-- Ten in the morning of that day. -/
def morning : Moment := { march.midnight with hour := 10, hour_lt := by decide }

/-- The range for a day has its midnight, and not the midnight of the next day. -/
theorem range_of_day_march :
    let call := (writing "" Value.defaultDatePattern).fragmentsWith .empty ⟨0⟩ [] .date
    let bound := "2024-03-01T00:00:00"
    let next : Date := ⟨2024, 3, 2, by decide, by decide, by decide⟩
    call ["published_on", .date march] = .ok [rangeBetween "published_on" bound bound] ∧
      Moment.Between bound bound (march.midnight.format Value.defaultDatePattern) ∧
      ¬Moment.Between bound bound (next.midnight.format Value.defaultDatePattern) := by
  intro call bound next
  obtain ⟨written, -, inside⟩ := range_of_day "" .empty ⟨0⟩ "published_on" march
  have same : march.midnight.format Value.defaultDatePattern = bound := by decide
  rw [same] at written inside
  refine ⟨written, (inside _).mpr ⟨rfl, rfl, rfl, rfl⟩, fun later => ?_⟩
  exact absurd ((inside _).mp later).1 (by decide)

/-- The range for a day does not have the morning of the day. -/
theorem morning_not_between :
    let call := (writing "" Value.defaultDatePattern).fragmentsWith .empty ⟨0⟩ [] .date
    let bound := "2024-03-01T00:00:00"
    call ["published_on", .date march] = .ok [rangeBetween "published_on" bound bound] ∧
      morning.date = march ∧
      ¬Moment.Between bound bound (morning.format Value.defaultDatePattern) := by
  intro call bound
  have same : march.midnight.format Value.defaultDatePattern = bound := by decide
  refine ⟨rfl, rfl, ?_⟩
  rw [← same, Moment.between_format]
  decide

end Dialect

end DocumentSearch
