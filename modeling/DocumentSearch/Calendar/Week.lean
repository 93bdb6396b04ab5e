import DocumentSearch.Calendar.Basic

/-!
# Weeks

Weeks of a year are counted from its first Sunday, from its first Monday, or from the week that has
its first Thursday. In the last way of counting the days around New Year may belong to the year
beside their own.
-/
namespace DocumentSearch.Date

/-- The number of Sundays so far. -/
def weekFromSunday (d : Date) : Nat := (d.dayOfYear + 6 - d.weekday % 7) / 7

def weekFromMonday (d : Date) : Nat := (d.dayOfYear + 7 - d.weekday) / 7

/-- The number of the week counted by Thursdays, before it is settled to which year it belongs. -/
def rawWeek (d : Date) : Nat := (d.dayOfYear + 10 - d.weekday) / 7

def newYear (year : Nat) : Nat :=
  let past := year - 1
  (365 * past + past / 4 - past / 100 + past / 400) % 7 + 1

/-- A year with 53 Thursdays starts or ends on one. -/
def weeksIn (year : Nat) : Nat :=
  if newYear year = 4 ∨ (newYear year = 3 ∧ isLeapYear year) then 53 else 52

def weekYear (d : Date) : Nat :=
  if d.rawWeek = 0 then d.year - 1
  else if weeksIn d.year < d.rawWeek then d.year + 1
  else d.year

def week (d : Date) : Nat :=
  if d.rawWeek = 0 then weeksIn (d.year - 1)
  else if weeksIn d.year < d.rawWeek then 1
  else d.rawWeek

def weekdayNames : List String :=
  ["Monday", "Tuesday", "Wednesday", "Thursday", "Friday", "Saturday", "Sunday"]

def monthNames : List String :=
  ["January", "February", "March", "April", "May", "June", "July", "August", "September",
    "October", "November", "December"]

def weekdayName (d : Date) : String := weekdayNames.getD (d.weekday - 1) ""

def monthName (d : Date) : String := monthNames.getD (d.month - 1) ""

end DocumentSearch.Date
