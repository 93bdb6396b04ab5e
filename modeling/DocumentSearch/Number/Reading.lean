import DocumentSearch.Number.Binary64
import DocumentSearch.Text.Ascii
import DocumentSearch.Text.Blank
import DocumentSearch.Text.Digit

/-!
# Reading numbers

Numbers are read from text with blanks around them, a sign, digits of any script and single
underscores between digits.
-/
namespace DocumentSearch.Number

open DocumentSearch.Text

/-- The blanks that may surround a number: the ASCII separators 28 to 31 are not among them. -/
def isMargin (c : Char) : Bool := isBlank c && !(28 ≤ c.toNat && c.toNat ≤ 31)

def trim (cs : List Char) : List Char :=
  ((cs.dropWhile isMargin).reverse.dropWhile isMargin).reverse

def sign : List Char → Bool × List Char
  | '-' :: rest => (true, rest)
  | '+' :: rest => (false, rest)
  | rest => (false, rest)

/-- A longest run of digits in which single underscores may stand between two digits, and the rest.
The run is refused by `none` if an underscore stands elsewhere. -/
def digitRun : List Char → Option (List Nat × List Char)
  | [] => some ([], [])
  | c :: rest =>
    match digitValue? c with
    | none => if c = '_' then none else some ([], c :: rest)
    | some d =>
      match rest with
      | '_' :: after =>
        match digitRun after with
        | some (e :: more, tail) => some (d :: e :: more, tail)
        | _ => none
      | rest => (digitRun rest).map (fun (more, tail) => (d :: more, tail))

/-- At most 4300 digits are read as a whole number. -/
def readWhole? (s : String) : Option Int :=
  let (negative, body) := sign (trim s.toList)
  match digitRun body with
  | some (digits@(_ :: _), []) =>
    if digits.length ≤ 4300 then
      some (if negative then -(ofDigits digits : Int) else ofDigits digits)
    else none
  | _ => none

/-- The nearest binary number to `±digits · 10^exponent`. Exponents far out of range are settled
without writing out the power. -/
def nearestDecimal (negative : Bool) (digits : List Nat) (exponent : Int) : Binary64 :=
  let significand := ofDigits digits
  let places : Int := digits.length + exponent
  if significand = 0 ∨ places < -400 then .zero negative
  else if 0 ≤ exponent then
    if 400 < exponent then .infinite negative
    else .ofFraction negative (significand * Nat.pow 10 exponent.toNat) 1
  else .ofFraction negative significand (Nat.pow 10 (-exponent).toNat)

/-- An exponent mark with its signed digits, up to the end. -/
def readExponent? : List Char → Option Int
  | [] => some 0
  | mark :: rest =>
    if mark = 'e' ∨ mark = 'E' then
      let (negative, body) := sign rest
      match digitRun body with
      | some (digits@(_ :: _), []) =>
        some (if negative then -(ofDigits digits : Int) else ofDigits digits)
      | _ => none
    else none

def readReal? (s : String) : Option Binary64 :=
  let (negative, body) := sign (trim s.toList)
  let word := String.ofList (body.map asciiLower)
  if word = "inf" ∨ word = "infinity" then some (.infinite negative)
  else if word = "nan" then some (.nan 0)
  else
    match digitRun body with
    | none => none
    | some (whole, rest) =>
      let part := match rest with
        | '.' :: rest => digitRun rest
        | rest => some ([], rest)
      match part with
      | none => none
      | some (places, rest) =>
        if whole.isEmpty && places.isEmpty then none
        else (readExponent? rest).map
          (fun exponent => nearestDecimal negative (whole ++ places) (exponent - places.length))

end DocumentSearch.Number
