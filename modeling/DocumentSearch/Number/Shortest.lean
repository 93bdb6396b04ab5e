import DocumentSearch.Number.Binary64

/-!
# Shortest decimal text

A finite binary number is written with the fewest digits that still round to it; of two such
decimals the nearer is taken, and of two equally near ones the even one.
-/
namespace DocumentSearch

/-- The value `significand · 10^exponent`. -/
structure Decimal where
  significand : Nat
  exponent : Int
  deriving DecidableEq, Repr

namespace Decimal

def toRat (d : Decimal) : Rat :=
  if 0 ≤ d.exponent then ((d.significand * Nat.pow 10 d.exponent.toNat : Nat) : Rat)
  else (d.significand : Rat) / (Nat.pow 10 (-d.exponent).toNat : Rat)

/-- The exponent of the leading decimal digit. -/
def leadingPlace (n d : Nat) : Int := floorLog 10 (fun k => (Nat.toDigits 10 k).length - 1) n d

/-- The grid point at or below `n/d` on the grid with the given exponent. -/
def below (n d : Nat) (exponent : Int) : Decimal :=
  ⟨if 0 ≤ exponent then n / (d * Nat.pow 10 exponent.toNat)
    else n * Nat.pow 10 (-exponent).toNat / d, exponent⟩

def succ (d : Decimal) : Decimal := ⟨d.significand + 1, d.exponent⟩

end Decimal

namespace Binary64

/-- Half the distance to the neighbour below; it is halved at the start of a binade. -/
def halfGapBelow (significand : Nat) (exponent : Int) : Rat :=
  if significand = Nat.pow 2 52 ∧ -1074 < exponent then magnitude 1 exponent / 4
  else magnitude 1 exponent / 2

/-- Whether a decimal value rounds to `significand · 2^exponent`. -/
def roundsHere (significand : Nat) (exponent : Int) (r : Rat) : Bool :=
  let value := magnitude significand exponent
  let low := value - halfGapBelow significand exponent
  let high := value + magnitude 1 exponent / 2
  if significand % 2 = 0 then low ≤ r ∧ r ≤ high else low < r ∧ r < high

/-- The nearer of the two grid points around a value, if one of them rounds to it. -/
def nearestOnGrid? (significand : Nat) (exponent place : Int) : Option Decimal :=
  let (n, d) := fraction significand exponent
  let value := magnitude significand exponent
  let low := Decimal.below n d place
  let high := low.succ
  match roundsHere significand exponent low.toRat, roundsHere significand exponent high.toRat with
  | false, false => none
  | true, false => some low
  | false, true => some high
  | true, true =>
    let below := value - low.toRat
    let above := high.toRat - value
    if below < above then some low
    else if above < below then some high
    else if low.significand % 2 = 0 then some low else some high

/-- Seventeen digits always suffice. -/
def shortest (significand : Nat) (exponent : Int) : Decimal :=
  let (n, d) := fraction significand exponent
  let leading := Decimal.leadingPlace n d
  let grids := (List.range 17).map (fun digits : Nat => leading - (digits : Int))
  (grids.findSome? (nearestOnGrid? significand exponent)).getD (Decimal.below n d (leading - 16))

/-- Digits are placed around the point for values from `0.0001` up to `10^16`, and written with an
exponent of at least two digits outside. -/
def layout (digits : List Char) (point : Int) : List Char :=
  let count : Int := digits.length
  if -4 < point ∧ point ≤ 16 then
    if point ≤ 0 then '0' :: '.' :: (List.replicate (-point).toNat '0' ++ digits)
    else if count ≤ point then digits ++ List.replicate (point - count).toNat '0' ++ ['.', '0']
    else digits.take point.toNat ++ '.' :: digits.drop point.toNat
  else
    let mantissa := match digits with
      | [] => []
      | [d] => [d]
      | d :: rest => d :: '.' :: rest
    let exponent := point - 1
    let magnitude := Nat.toDigits 10 exponent.natAbs
    mantissa ++ 'e' :: (if exponent < 0 then '-' else '+') ::
      (List.replicate (2 - magnitude.length) '0' ++ magnitude)

def dropTrailingZeros (digits : List Char) : List Char :=
  (digits.reverse.dropWhile (· = '0')).reverse

def unsignedText (significand : Nat) (exponent : Int) : String :=
  if significand = 0 then "0.0"
  else
    let decimal := shortest significand exponent
    let digits := Nat.toDigits 10 decimal.significand
    String.ofList (layout (dropTrailingZeros digits) (digits.length + decimal.exponent))

def text : Binary64 → String
  | finite negative m q => (if negative then "-" else "") ++ unsignedText m q
  | infinite negative => if negative then "-inf" else "inf"
  | nan _ => "nan"

end Binary64

end DocumentSearch
