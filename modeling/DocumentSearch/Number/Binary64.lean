/-!
# Binary floating-point numbers

A finite number is `±significand · 2^exponent` with at most 53 significant bits. Each operation
takes the exact rational result and rounds it once, to the nearest number, a half going to the even
one.
-/
namespace DocumentSearch

/-- The quotient rounded to the nearest natural number, a half going to the even one. -/
def divRound (n d : Nat) : Nat :=
  if 2 * (n % d) < d then n / d
  else if d < 2 * (n % d) then n / d + 1
  else n / d + n / d % 2

def powerAtMost (b : Nat) (e : Int) (n d : Nat) : Bool :=
  if 0 ≤ e then d * Nat.pow b e.toNat ≤ n else d ≤ n * Nat.pow b (-e).toNat

/-- The greatest `e` with `b^e ≤ n/d`, from a function giving it for natural numbers. -/
def floorLog (b : Nat) (log : Nat → Nat) (n d : Nat) : Int :=
  let guess : Int := (log n : Int) - log d
  if powerAtMost b guess n d then guess else guess - 1

inductive Binary64 where
  | finite (negative : Bool) (significand : Nat) (exponent : Int)
  | infinite (negative : Bool)
  /-- No number. It equals nothing, but where it comes from tells one from another; what a
  computation gives comes from 0. -/
  | nan (origin : Nat)
  deriving DecidableEq, Repr, Inhabited

/-- The numbers on the line together with its two ends. -/
inductive Extended where
  | bottom
  | finite (r : Rat)
  | top

namespace Extended

def lt : Extended → Extended → Bool
  | bottom, bottom => false
  | bottom, _ => true
  | _, bottom => false
  | top, _ => false
  | finite _, top => true
  | finite a, finite b => a < b

def eq : Extended → Extended → Bool
  | bottom, bottom => true
  | top, top => true
  | finite a, finite b => a = b
  | _, _ => false

theorem eq_iff {x y : Extended} : x.eq y = true ↔ x = y := by
  cases x <;> cases y <;> simp [eq]

end Extended

namespace Binary64

def zero (negative : Bool) : Binary64 := finite negative 0 (-1074)

/-- The nearest number to `±n/d`; from `2^1024 - 2^970` on it is infinite. -/
def ofFraction (negative : Bool) (n d : Nat) : Binary64 :=
  if n = 0 then zero negative
  else
    let q := max (-1074) (floorLog 2 Nat.log2 n d - 52)
    let m :=
      if 0 ≤ q then divRound n (d * Nat.pow 2 q.toNat)
      else divRound (n * Nat.pow 2 (-q).toNat) d
    let (m, q) := if m = Nat.pow 2 53 then (Nat.pow 2 52, q + 1) else (m, q)
    if 971 < q then infinite negative else finite negative m q

def ofRat (r : Rat) : Binary64 := ofFraction (r < 0) r.num.natAbs r.den

def ofInt (i : Int) : Binary64 := ofFraction (i < 0) i.natAbs 1

def fraction (significand : Nat) (exponent : Int) : Nat × Nat :=
  if 0 ≤ exponent then (significand * Nat.pow 2 exponent.toNat, 1)
  else (significand, Nat.pow 2 (-exponent).toNat)

def magnitude (significand : Nat) (exponent : Int) : Rat :=
  let (n, d) := fraction significand exponent
  (n : Rat) / (d : Rat)

/-- Everything but NaN lies on the extended line. -/
def extended? : Binary64 → Option Extended
  | finite false m q => some (.finite (magnitude m q))
  | finite true m q => some (.finite (-magnitude m q))
  | infinite false => some .top
  | infinite true => some .bottom
  | nan _ => none

def isNegative : Binary64 → Bool
  | finite s _ _ => s
  | infinite s => s
  | nan _ => false

def isZero : Binary64 → Bool
  | finite _ 0 _ => true
  | _ => false

def negate : Binary64 → Binary64
  | finite s m q => finite (!s) m q
  | infinite s => infinite (!s)
  | nan _ => nan 0

def add (x y : Binary64) : Binary64 :=
  match x.extended?, y.extended? with
  | some (.finite a), some (.finite b) =>
    if a + b = 0 then zero (x.isNegative && y.isNegative) else ofRat (a + b)
  | some (.finite _), some _ => y
  | some _, some (.finite _) => x
  | some _, some _ => if x.isNegative = y.isNegative then x else nan 0
  | _, _ => nan 0

def sub (x y : Binary64) : Binary64 := add x (negate y)

def mul (x y : Binary64) : Binary64 :=
  let negative := x.isNegative != y.isNegative
  match x.extended?, y.extended? with
  | some (.finite a), some (.finite b) =>
    if a * b = 0 then zero negative else ofRat (a * b)
  | some _, some _ => if x.isZero || y.isZero then nan 0 else infinite negative
  | _, _ => nan 0

/-- A quotient by zero is left to the caller. -/
def div (x y : Binary64) : Binary64 :=
  let negative := x.isNegative != y.isNegative
  match x.extended?, y.extended? with
  | some (.finite a), some (.finite b) => if a = 0 then zero negative else ofRat (a / b)
  | some (.finite _), some _ => zero negative
  | some _, some (.finite _) => infinite negative
  | _, _ => nan 0

end Binary64

end DocumentSearch
