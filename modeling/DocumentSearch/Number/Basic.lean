import DocumentSearch.Number.Shortest
import DocumentSearch.Number.Reading

/-!
# Numbers

A number is a truth value counted as 0 or 1, a whole number or a binary floating-point number.
Numbers are compared by their exact values. Whole numbers are computed exactly; with a
floating-point operand the other one is rounded first.
-/
namespace DocumentSearch

/-- Why a conversion fails: the kind of value does not fit, the value does not, or it is too
large. -/
inductive Misuse where
  | illTyped
  | badValue
  | overflow
  deriving DecidableEq, Repr

inductive Number where
  | flag (b : Bool)
  | int (i : Int)
  | real (x : Binary64)
  deriving DecidableEq, Repr, Inhabited

namespace Number

def whole? : Number → Option Int
  | flag b => some (if b then 1 else 0)
  | int i => some i
  | real _ => none

def extended? : Number → Option Extended
  | flag b => some (.finite (if b then 1 else 0))
  | int i => some (.finite i)
  | real x => x.extended?

/-- NaN is neither less than, equal to nor greater than any number. -/
def lt (a b : Number) : Bool :=
  match a.whole?, b.whole? with
  | some i, some j => i < j
  | _, _ =>
    match a.extended?, b.extended? with
    | some x, some y => x.lt y
    | _, _ => false

def eq (a b : Number) : Bool :=
  match a.whole?, b.whole? with
  | some i, some j => i = j
  | _, _ =>
    match a.extended?, b.extended? with
    | some x, some y => x.eq y
    | _, _ => false

def le (a b : Number) : Bool := a.lt b || a.eq b

/-- Whether two numbers are equal or one and the same. -/
def same (a b : Number) : Bool := a.eq b || a = b

def isZero (a : Number) : Bool := a.eq (int 0)

/-- The first of two numbers unless the second is greater. -/
def max (a b : Number) : Number := if a.lt b then b else a

/-- The first of two numbers unless the second is less. -/
def min (a b : Number) : Number := if b.lt a then b else a

/-- The nearest floating-point number, unless it would be infinite. -/
def toReal : Number → Except Misuse Binary64
  | real x => .ok x
  | flag b => .ok (.ofInt (if b then 1 else 0))
  | int i =>
    match Binary64.ofInt i with
    | .infinite _ => .error .overflow
    | x => .ok x

def combine (whole : Int → Int → Int) (binary : Binary64 → Binary64 → Binary64) (a b : Number) :
    Except Misuse Number :=
  match a.whole?, b.whole? with
  | some i, some j => .ok (int (whole i j))
  | _, _ => do return real (binary (← a.toReal) (← b.toReal))

def add : Number → Number → Except Misuse Number := combine (· + ·) Binary64.add

def sub : Number → Number → Except Misuse Number := combine (· - ·) Binary64.sub

def mul : Number → Number → Except Misuse Number := combine (· * ·) Binary64.mul

/-- The quotient by a number other than zero. A quotient of whole numbers is rounded once. -/
def div (a b : Number) : Except Misuse Binary64 :=
  match a.whole?, b.whole? with
  | some i, some j =>
    match Binary64.ofRat ((i : Rat) / (j : Rat)) with
    | .infinite _ => .error .overflow
    | x => .ok x
  | _, _ => do return Binary64.div (← a.toReal) (← b.toReal)

def ceil (x : Binary64) : Except Misuse Int :=
  match x.extended? with
  | some (.finite r) => .ok r.ceil
  | some _ => .error .overflow
  | none => .error .badValue

def truncate : Number → Except Misuse Int
  | flag b => .ok (if b then 1 else 0)
  | int i => .ok i
  | real x =>
    match x.extended? with
    | some (.finite r) => .ok (r.num.tdiv r.den)
    | some _ => .error .overflow
    | none => .error .badValue

def text : Number → String
  | flag b => if b then "True" else "False"
  | int i => toString i
  | real x => x.text

@[simp] theorem lt_int (i j : Int) : lt (int i) (int j) = decide (i < j) := rfl

@[simp] theorem eq_int (i j : Int) : eq (int i) (int j) = decide (i = j) := rfl

@[simp] theorem add_int (i j : Int) : add (int i) (int j) = .ok (int (i + j)) := rfl

@[simp] theorem sub_int (i j : Int) : sub (int i) (int j) = .ok (int (i - j)) := rfl

@[simp] theorem mul_int (i j : Int) : mul (int i) (int j) = .ok (int (i * j)) := rfl

theorem max_int (i j : Int) : max (int i) (int j) = int (Max.max i j) := by
  simp only [max, lt_int, decide_eq_true_eq]
  split <;> congr 1 <;> omega

theorem min_int (i j : Int) : min (int i) (int j) = int (Min.min i j) := by
  simp only [min, lt_int, decide_eq_true_eq]
  split <;> congr 1 <;> omega

variable {a b c : Number}

theorem extended?_of_whole {i : Int} (h : a.whole? = some i) : a.extended? = some (.finite i) := by
  cases a with
  | flag b => cases b <;> cases h <;> rfl
  | int j => cases h; rfl
  | real x => cases h

/-- Numbers are equal by what they are on the line, whichever way they are given. -/
theorem eq_iff : a.eq b = true ↔ ∃ x, a.extended? = some x ∧ b.extended? = some x := by
  have common : ∀ {x y : Extended}, a.extended? = some x → b.extended? = some y →
      ((∃ z, a.extended? = some z ∧ b.extended? = some z) ↔ x = y) := fun hx hy => by
    rw [hx, hy]
    exact ⟨fun ⟨_, h, k⟩ => (Option.some.inj h).trans (Option.some.inj k).symm,
      fun h => ⟨_, rfl, congrArg some h.symm⟩⟩
  unfold eq
  split
  -- Two whole numbers are compared as such, and whole numbers lie on the line without rounding.
  · rename_i i j hi hj
    rw [common (extended?_of_whole hi) (extended?_of_whole hj), decide_eq_true_eq,
      Extended.finite.injEq, Rat.intCast_inj]
  · split
    · rename_i x y hx hy
      rw [common hx hy, Extended.eq_iff]
    · rename_i none
      simp only [Bool.false_eq_true, false_iff]
      rintro ⟨x, hx, hy⟩
      exact none x x hx hy

theorem same_iff :
    a.same b = true ↔ a = b ∨ ∃ x, a.extended? = some x ∧ b.extended? = some x := by
  simp only [same, Bool.or_eq_true, eq_iff, decide_eq_true_eq]
  exact or_comm

theorem same_refl (a : Number) : a.same a = true := same_iff.mpr (.inl rfl)

theorem same_symm (h : a.same b = true) : b.same a = true := by
  rw [same_iff] at h ⊢
  rcases h with rfl | ⟨x, ha, hb⟩
  · exact .inl rfl
  · exact .inr ⟨x, hb, ha⟩

theorem same_trans (h : a.same b = true) (k : b.same c = true) : a.same c = true := by
  rw [same_iff] at h k ⊢
  rcases h with rfl | ⟨x, ha, hb⟩
  · exact k
  · rcases k with rfl | ⟨y, hb', hc⟩
    · exact .inr ⟨x, ha, hb⟩
    · obtain rfl : x = y := Option.some.inj (hb.symm.trans hb')
      exact .inr ⟨x, ha, hc⟩

end Number

end DocumentSearch
