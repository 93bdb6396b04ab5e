/-!
# Directives of date patterns

In a pattern a percent sign opens a directive: flags, a least width, a modifier and a letter, each
but the letter only if it is there. All other characters stand for themselves.
-/
namespace DocumentSearch

/-- How a field is filled up on its left. -/
inductive Fill where
  | usual
  | bare
  | blanks
  | zeros
  deriving DecidableEq, Repr

/-- Letters may be raised, or changed in the way that suits the field. -/
structure Directive where
  fill : Fill
  upper : Bool
  swapped : Bool
  width : Nat
  modifier : Option Char
  /-- The letter, unless the pattern ends before it. -/
  letter : Option Char
  /-- The directive as it is written. -/
  spelling : List Char
  deriving DecidableEq, Repr

namespace Directive

def opened : Directive := ⟨.usual, false, false, 0, none, none, ['%']⟩

/-- How far a directive is read: its flags, its width or its modifier. -/
inductive Stage where
  | flags
  | width
  | modifier
  deriving DecidableEq

def flag? (d : Directive) : Char → Option Directive
  | '-' => some { d with fill := .bare }
  | '_' => some { d with fill := .blanks }
  | '0' => some { d with fill := .zeros }
  | '^' => some { d with upper := true }
  | '#' => some { d with swapped := true }
  | _ => none

def isDigit (c : Char) : Bool := '0' ≤ c ∧ c ≤ '9'

def feed? (stage : Stage) (d : Directive) (c : Char) : Option (Stage × Directive) :=
  match if stage = .flags then d.flag? c else none with
  | some d => some (.flags, d)
  | none =>
    if stage ≠ .modifier && isDigit c then
      some (.width, { d with width := 10 * d.width + (c.toNat - 48) })
    else if stage ≠ .modifier && (c = 'E' || c = 'O') then
      some (.modifier, { d with modifier := some c })
    else none

def written (d : Directive) (c : Char) : Directive := { d with spelling := d.spelling ++ [c] }

end Directive

/-- A piece of a pattern: a character that stands for itself, or a directive. -/
inductive PatternPiece where
  | plain (c : Char)
  | directive (d : Directive)
  deriving DecidableEq, Repr

namespace PatternPiece

/-- The pieces of a pattern, where a directive may be open already. -/
def scan : Option (Directive.Stage × Directive) → List Char → List PatternPiece
  | none, [] => []
  | some (_, d), [] => [directive d]
  | none, c :: rest =>
    if c = '%' then scan (some (.flags, .opened)) rest else plain c :: scan none rest
  | some (stage, d), c :: rest =>
    match d.feed? stage c with
    | some (stage, d) => scan (some (stage, d.written c)) rest
    | none => directive { d.written c with letter := some c } :: scan none rest

def ofChars (cs : List Char) : List PatternPiece := scan none cs

end PatternPiece

end DocumentSearch
