import Mathlib.Algebra.GroupWithZero.Nat
import DocumentSearch.Value.Dates

/-!
# Moments in the default pattern

The pattern that is used unless another one is asked for writes a moment down to its second, as six
numbers with marks between them, and always fits into its room.
-/
namespace DocumentSearch

theorem length_padded_le {width n bound : Nat} (small : n < 10 ^ bound) (width_le : width ≤ bound)
    (some : 0 < bound) : (padded width n).length ≤ bound := by
  have digits : (Nat.toDigits 10 n).length ≤ bound := by
    rw [Nat.length_toDigits_le_iff (by decide) some]
    exact small
  simp only [padded, List.length_append, List.length_replicate]
  omega

/-- A number that needs no more digits fills its width. -/
theorem length_padded {width n : Nat} (small : n < 10 ^ width) (some : 0 < width) :
    (padded width n).length = width := by
  refine Nat.le_antisymm (length_padded_le small (Nat.le_refl _) some) ?_
  simp only [padded, List.length_append, List.length_replicate]
  omega

namespace Directive

theorem layNumber_opened (letter : Char) (spelling : List Char) (digits n : Nat) :
    ({ opened with letter := some letter, spelling } : Directive).layNumber digits n false =
      padded digits n := by
  have positive : ¬(n : Int) < 0 := by omega
  simp [layNumber, opened, fillLeft, padded, positive]

end Directive

namespace Moment

variable (m : Moment)

def stamp : List Char :=
  padded 1 m.date.year ++ '-' :: (padded 2 m.date.month ++ '-' :: (padded 2 m.date.day ++
    'T' :: (padded 2 m.hour ++ ':' :: (padded 2 m.minute ++ ':' :: padded 2 m.second))))

theorem fields_lt : m.date.month < 10 ^ 2 ∧ m.date.day < 10 ^ 2 ∧ m.hour < 10 ^ 2 ∧
    m.minute < 10 ^ 2 ∧ m.second < 10 ^ 2 := by
  have days : daysInMonth m.date.year m.date.month ≤ 31 := by
    grind [daysInMonth]
  have month := m.date.month_bounds
  have day := m.date.day_bounds
  have hour := m.hour_lt
  have minute := m.minute_lt
  have second := m.second_lt
  omega

theorem length_stamp_le : m.stamp.length ≤ 19 := by
  have year : (padded 1 m.date.year).length ≤ 4 :=
    length_padded_le (by have := m.date.year_bounds; omega) (by decide) (by decide)
  obtain ⟨month, day, hour, minute, second⟩ := m.fields_lt
  have two : 0 < 2 := by decide
  simp only [stamp, List.length_append, List.length_cons, length_padded month two,
    length_padded day two, length_padded hour two, length_padded minute two,
    length_padded second two]
  omega

def number (letter : Char) : PatternPiece :=
  .directive { Directive.opened with letter := some letter, spelling := ['%', letter] }

theorem piece_number {letter : Char} {digits n : Nat} (limit : Nat)
    (field : m.field? letter = some (.number digits n false)) (plain : letter ≠ 'z') :
    m.piece (narrowed limit (number letter)) = padded digits n := by
  simp only [number, piece, narrowed, directive, known, Directive.opened, if_true, field,
    Directive.lay]
  exact Directive.layNumber_opened letter ['%', letter] digits n

theorem pieces_default (limit : Nat) :
    ((PatternPiece.ofChars Value.defaultDatePattern.toList).map
      fun p => m.piece (narrowed limit p)).flatten = m.stamp := by
  have pieces : PatternPiece.ofChars Value.defaultDatePattern.toList =
      [number 'Y', .plain '-', number 'm', .plain '-', number 'd', .plain 'T', number 'H',
        .plain ':', number 'M', .plain ':', number 'S'] := rfl
  have mark : ∀ c, m.piece (narrowed limit (.plain c)) = [c] := fun _ => rfl
  have year : m.field? 'Y' = some (.number 1 m.date.year false) := rfl
  have month : m.field? 'm' = some (.number 2 m.date.month false) := rfl
  have day : m.field? 'd' = some (.number 2 m.date.day false) := rfl
  have hour : m.field? 'H' = some (.number 2 m.hour false) := rfl
  have minute : m.field? 'M' = some (.number 2 m.minute false) := rfl
  have second : m.field? 'S' = some (.number 2 m.second false) := rfl
  simp [pieces, mark, m.piece_number limit year, m.piece_number limit month,
    m.piece_number limit day, m.piece_number limit hour, m.piece_number limit minute,
    m.piece_number limit second, stamp]

theorem formatChars_default : m.formatChars Value.defaultDatePattern.toList = m.stamp := by
  have whole : m.expand (Value.defaultDatePattern.toList.takeWhile (· ≠ '\x00')) =
      Value.defaultDatePattern.toList := rfl
  have fits : m.stamp.length < roomFor Value.defaultDatePattern.toList := by
    have room : roomFor Value.defaultDatePattern.toList = 8192 := by decide
    have := m.length_stamp_le
    omega
  rw [formatChars, whole, formatExpanded, pieces_default, if_pos fits]

/-- The default pattern writes a moment down to its second. -/
theorem format_default : m.format Value.defaultDatePattern = String.ofList m.stamp := by
  rw [format, formatChars_default]

theorem format_default_ne_empty : m.format Value.defaultDatePattern ≠ "" := by
  simp [format_default, stamp]

end Moment

end DocumentSearch
