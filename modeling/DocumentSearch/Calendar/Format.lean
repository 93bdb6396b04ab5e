import DocumentSearch.Calendar.Directive
import DocumentSearch.Calendar.Week
import DocumentSearch.Text.Ascii

/-!
# Formatted moments

A pattern is copied, and each directive in it is replaced by a field of the moment: a number, a word
or a few fields together. A directive that is not known is copied as it is written.
-/
namespace DocumentSearch

open Text (asciiLower asciiUpper)

/-- The decimal digits of `n`, with zeros in front up to a width. -/
def padded (width n : Nat) : List Char :=
  let digits := Nat.toDigits 10 n
  List.replicate (width - digits.length) '0' ++ digits

inductive DateField where
  /-- A number with its usual width, which blanks fill up if `blank` and zeros otherwise. -/
  | number (digits : Nat) (value : Int) (blank : Bool)
  /-- A name, which is raised when its letters are changed. -/
  | name (cs : List Char)
  /-- The half of a day, which is lowered when its letters are changed. -/
  | half (cs : List Char)
  /-- Text whose letters stay. -/
  | fixed (cs : List Char)
  /-- Several fields at once. -/
  | several (cs : List Char)

namespace Directive

def fillLeft (width : Nat) (c : Char) (cs : List Char) : List Char :=
  List.replicate (width - cs.length) c ++ cs

/-- Text is filled up with blanks, or with zeros if they are asked for; in a bare field no text is
left as it is. -/
def layText (d : Directive) (cs : List Char) : List Char :=
  if d.fill = .bare && cs.isEmpty then []
  else fillLeft d.width (if d.fill = .zeros then '0' else ' ') cs

def layNumber (d : Directive) (digits : Nat) (value : Int) (blank : Bool) : List Char :=
  let sign := if value < 0 then ['-'] else []
  let shown := Nat.toDigits 10 value.natAbs
  let width := Max.max digits d.width
  match d.fill, blank with
  | .bare, _ => fillLeft d.width ' ' (sign ++ shown)
  | .blanks, _ => fillLeft width ' ' (sign ++ shown)
  | .usual, true => fillLeft width ' ' (sign ++ shown)
  | _, _ => sign ++ fillLeft (width - sign.length) '0' shown

def lay (d : Directive) : DateField → List Char
  | .number digits value blank => d.layNumber digits value blank
  | .name cs => d.layText (if d.upper || d.swapped then cs.map asciiUpper else cs)
  | .half cs => d.layText (if d.swapped then cs.map asciiLower else cs)
  | .fixed cs => d.layText cs
  | .several cs => if d.upper then (d.layText cs).map asciiUpper else d.layText cs

/-- Whether the letters of a directive are raised even when it is copied. -/
def raisesCopy (d : Directive) : Bool :=
  d.upper || (d.swapped && (d.letter = some 'b' || d.letter = some 'h'))

/-- An unknown directive is copied from its last percent sign on. -/
def copied (d : Directive) : List Char :=
  let cs := if d.letter = some '%' then ['%'] else d.spelling
  d.layText (if d.raisesCopy then cs.map asciiUpper else cs)

end Directive

namespace Moment

/-- The offset as sign, hours and minutes, with a mark between the two. -/
def offsetDigits (mark : List Char) (offset : Int) : List Char :=
  (if offset < 0 then '-' else '+') ::
    (padded 2 (offset.natAbs / 60) ++ mark ++ padded 2 (offset.natAbs % 60))

def zoneName (offset : Int) : List Char :=
  "UTC".toList ++ if offset = 0 then [] else offsetDigits [':'] offset

/-- Hours are counted from 1 to 12 twice a day. -/
def halfHour (m : Moment) : Nat := if m.hour % 12 = 0 then 12 else m.hour % 12

def halfName (m : Moment) : List Char := if m.hour < 12 then ['A', 'M'] else ['P', 'M']

/-- Seconds since the start of 1970, with the moment taken as universal time. -/
def sinceEpoch (m : Moment) : Int :=
  86400 * ((m.date.ordinal : Int) - 719163) + (3600 * m.hour + 60 * m.minute + m.second : Nat)

def field? (m : Moment) : Char → Option DateField
  | 'Y' => some (.number 1 m.date.year false)
  | 'C' => some (.number 1 (m.date.year / 100 : Nat) false)
  | 'y' => some (.number 2 (m.date.year % 100 : Nat) false)
  | 'G' => some (.number 1 m.date.weekYear false)
  | 'g' => some (.number 2 (m.date.weekYear % 100 : Nat) false)
  | 'm' => some (.number 2 m.date.month false)
  | 'd' => some (.number 2 m.date.day false)
  | 'e' => some (.number 2 m.date.day true)
  | 'j' => some (.number 3 m.date.dayOfYear false)
  | 'u' => some (.number 1 m.date.weekday false)
  | 'w' => some (.number 1 (m.date.weekday % 7 : Nat) false)
  | 'U' => some (.number 2 m.date.weekFromSunday false)
  | 'W' => some (.number 2 m.date.weekFromMonday false)
  | 'V' => some (.number 2 m.date.week false)
  | 'H' => some (.number 2 m.hour false)
  | 'k' => some (.number 2 m.hour true)
  | 'I' => some (.number 2 m.halfHour false)
  | 'l' => some (.number 2 m.halfHour true)
  | 'M' => some (.number 2 m.minute false)
  | 'S' => some (.number 2 m.second false)
  | 's' => some (.fixed (toString m.sinceEpoch).toList)
  | 'a' => some (.name (m.date.weekdayName.toList.take 3))
  | 'A' => some (.name m.date.weekdayName.toList)
  | 'b' => some (.name (m.date.monthName.toList.take 3))
  | 'h' => some (.name (m.date.monthName.toList.take 3))
  | 'B' => some (.name m.date.monthName.toList)
  | 'p' => some (.half m.halfName)
  | 'P' => some (.fixed (m.halfName.map asciiLower))
  | 'n' => some (.fixed ['\n'])
  | 't' => some (.fixed ['\t'])
  | '%' => some (.fixed ['%'])
  | 'Z' => some (.fixed [])
  | _ => none

def compound? : Char → Option String
  | 'c' => some "%a %b %e %H:%M:%S %Y"
  | 'D' => some "%m/%d/%y"
  | 'x' => some "%m/%d/%y"
  | 'F' => some "%Y-%m-%d"
  | 'R' => some "%H:%M"
  | 'r' => some "%I:%M:%S %p"
  | 'T' => some "%H:%M:%S"
  | 'X' => some "%H:%M:%S"
  | _ => none

/-- A pattern whose directives are single letters. -/
def simple (m : Moment) : List Char → List Char
  | '%' :: c :: rest =>
    (m.field? c).elim [] (fun field => Directive.opened.lay field) ++ simple m rest
  | c :: rest => c :: simple m rest
  | [] => []

/-- The letters that a modifier may stand before, although it changes nothing. -/
def accepts (modifier letter : Char) : Bool :=
  if modifier = 'E' then "CcnpPrRsTtuxXYyZ".toList.contains letter
  else "BbCdegGhHIjklmMnpPrRsStTuUVwWyZ".toList.contains letter

def known (d : Directive) (letter : Char) : Bool :=
  match d.modifier with
  | some modifier => accepts modifier letter
  | none => true

def directive (m : Moment) (d : Directive) : List Char :=
  match d.letter with
  | none => d.copied
  | some 'z' => []
  | some letter =>
    if known d letter then
      match m.field? letter, compound? letter with
      | some field, _ => d.lay field
      | none, some pattern => d.lay (.several (m.simple pattern.toList))
      | none, none => d.copied
    else d.copied

def piece (m : Moment) : PatternPiece → List Char
  | .plain c => [c]
  | .directive d => m.directive d

/-- The offset, the zone and the fraction of the second are put in before anything else. -/
def expand (m : Moment) : List Char → List Char
  | '%' :: c :: rest =>
    (if c = 'z' then m.offset.elim [] (offsetDigits [])
      else if c = 'Z' then m.offset.elim [] zoneName
      else if c = 'f' then padded 6 m.microsecond
      else ['%', c]) ++ expand m rest
  | c :: rest => c :: expand m rest
  | [] => []

/-- The room for a result grows with its pattern, by doubling. -/
def room (wanted : Nat) : Nat → Nat → Nat
  | 0, size => size
  | fuel + 1, size => if wanted ≤ size then size else room wanted fuel (2 * size)

/-- The room for the result of an expanded pattern; the pattern's own length bounds the
doublings. -/
def roomFor (pattern : List Char) : Nat := room (256 * pattern.length) pattern.length 1024

/-- No field is made wider than the room for the result. -/
def narrowed (limit : Nat) : PatternPiece → PatternPiece
  | .directive d => .directive { d with width := Min.min d.width limit }
  | .plain c => .plain c

/-- A result that does not fit into its room is dropped. -/
def formatExpanded (m : Moment) (pattern : List Char) : List Char :=
  let limit := roomFor pattern
  let result := ((PatternPiece.ofChars pattern).map (fun p => m.piece (narrowed limit p))).flatten
  if result.length < limit then result else []

/-- A pattern ends at its first null character. -/
def formatChars (m : Moment) (pattern : List Char) : List Char :=
  m.formatExpanded (m.expand (pattern.takeWhile (· ≠ '\x00')))

def format (m : Moment) (pattern : String) : String := String.ofList (m.formatChars pattern.toList)

end Moment

end DocumentSearch
