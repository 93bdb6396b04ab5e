import DocumentSearch.Calendar.Format

/-!
# Standard date text

Dates as `2024-01-02` and moments as `2024-01-02T03:04:05.000006+01:30`, where the fraction is left
out when it is zero and the offset when there is none.
-/
namespace DocumentSearch

def digitOf? (c : Char) : Option Nat := if '0' ≤ c ∧ c ≤ '9' then some (c.toNat - 48) else none

/-- The number written by exactly `width` digits, and the rest. -/
def fixedDigits? (width : Nat) (cs : List Char) : Option (Nat × List Char) :=
  if (cs.take width).length = width then
    ((cs.take width).mapM digitOf?).map
      (fun ds => (ds.foldl (fun n d => 10 * n + d) 0, cs.drop width))
  else none

def mark? (c : Char) : List Char → Option (List Char)
  | d :: rest => if d = c then some rest else none
  | [] => none

namespace Date

def isoChars (d : Date) : List Char :=
  padded 4 d.year ++ '-' :: (padded 2 d.month ++ '-' :: padded 2 d.day)

def iso (d : Date) : String := String.ofList d.isoChars

def readIso? (cs : List Char) : Option (Date × List Char) := do
  let (year, cs) ← fixedDigits? 4 cs
  let cs ← mark? '-' cs
  let (month, cs) ← fixedDigits? 2 cs
  let cs ← mark? '-' cs
  let (day, cs) ← fixedDigits? 2 cs
  return (← Date.of? year month day, cs)

def ofIso? (s : String) : Option Date := do
  let (d, rest) ← readIso? s.toList
  if rest.isEmpty then some d else none

end Date

namespace Moment

/-- The character `mark` stands between the date and the time. -/
def isoChars (mark : Char) (m : Moment) : List Char :=
  m.date.isoChars ++
    mark :: (padded 2 m.hour ++ ':' :: (padded 2 m.minute ++ ':' :: padded 2 m.second)) ++
    (if m.microsecond = 0 then [] else '.' :: padded 6 m.microsecond) ++
    m.offset.elim [] (offsetDigits [':'])

def iso (m : Moment) : String := String.ofList (m.isoChars 'T')

/-- A sign with hours and minutes at the end of a moment. -/
def readOffset? : List Char → Option (Option Int)
  | [] => some none
  | sign :: cs => do
    let (hours, cs) ← fixedDigits? 2 cs
    let cs ← mark? ':' cs
    let (minutes, cs) ← fixedDigits? 2 cs
    let size : Int := (60 * hours + minutes : Nat)
    if cs.isEmpty then
      if sign = '+' then some (some size) else if sign = '-' then some (some (-size)) else none
    else none

def ofIso? (s : String) : Option Moment := do
  let (date, cs) ← Date.readIso? s.toList
  let cs ← mark? 'T' cs
  let (hour, cs) ← fixedDigits? 2 cs
  let cs ← mark? ':' cs
  let (minute, cs) ← fixedDigits? 2 cs
  let cs ← mark? ':' cs
  let (second, cs) ← fixedDigits? 2 cs
  let (microsecond, cs) ← match cs with
    | '.' :: cs => fixedDigits? 6 cs
    | cs => some (0, cs)
  let offset ← readOffset? cs
  Moment.of? date hour minute second microsecond offset

end Moment

end DocumentSearch
