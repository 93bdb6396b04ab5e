import DocumentSearch.Value.Basic

/-!
# Values as keys

Numbers are the same key when they are worth the same, whatever their form, and a NaN is the same
key only as itself. Tuples are compared item by item. Lists, tables and other values that can
change are no keys.
-/
namespace DocumentSearch

/-- The microseconds from the start of the calendar, in universal time if the moment says how far it
is off. -/
def Moment.instant (m : Moment) : Int :=
  1000000 * (86400 * (m.date.ordinal : Int) + (3600 * m.hour + 60 * m.minute + m.second : Nat) -
    60 * m.offset.getD 0) + m.microsecond

/-- What tells keys apart. -/
inductive Key where
  /-- What all values have that are no keys. -/
  | none
  | null
  | number (r : Rat)
  | infinite (negative : Bool)
  | nan (origin : Nat)
  | str (s : String)
  | bytes (bs : List UInt8)
  | date (d : Date)
  | moment (zoned : Bool) (instant : Int)
  | unit (u : DistanceUnit)
  | point (lat lon : Key)
  | bounds (topLeft bottomRight : Key)
  | builder (ref : Ref)
  | handle (h : Handle)
  | nil
  | cons (first rest : Key)
  deriving DecidableEq

namespace Key

def ofReal (x : Binary64) : Key :=
  match x, x.extended? with
  | .nan origin, _ => nan origin
  | _, some (.finite r) => number r
  | x, _ => infinite x.isNegative

def ofNumber : Number → Key
  | .flag b => number (if b then 1 else 0)
  | .int i => number i
  | .real x => ofReal x

def ofPoint (p : GeoPoint) : Key := point (ofNumber p.lat) (ofNumber p.lon)

/-- A tuple is a key if all of its items are. -/
def join : Key → Key → Key
  | none, _ => none
  | _, none => none
  | first, rest => cons first rest

end Key

namespace Value

mutual

def key : Value → Key
  | null => .null
  | bool b => .ofNumber (.flag b)
  | int i => .ofNumber (.int i)
  | float x => .ofNumber (.real x)
  | str s => .str s
  | bytes bs => .bytes bs
  | tuple items => keys items
  | date d => .date d
  | moment m => .moment m.offset.isSome m.instant
  | unit u => .unit u
  | point p => .ofPoint p
  | bounds b => .bounds (.ofPoint b.topLeft) (.ofPoint b.bottomRight)
  | builder ref => .builder ref
  | handle h => .handle h
  | _ => .none
termination_by structural v => v

def keys : List Value → Key
  | [] => .nil
  | v :: rest => .join (key v) (keys rest)
termination_by structural vs => vs

end

/-- Values are equal here when they are the same key. -/
instance : BEq Value := ⟨fun v w => v.key == w.key⟩

theorem beq_def (v w : Value) : (v == w) = (v.key == w.key) := rfl

instance : EquivBEq Value where
  rfl := by simp [beq_def]
  symm := by simp only [beq_def, beq_iff_eq]; exact Eq.symm
  trans := by simp only [beq_def, beq_iff_eq]; exact Eq.trans

@[simp] theorem str_beq_str (s t : String) : (str s == str t) = (s == t) := by
  rw [Bool.eq_iff_iff]
  simp [beq_def, key]

@[simp] theorem int_beq_int (i j : Int) : (int i == int j) = (i == j) := by
  rw [Bool.eq_iff_iff]
  simp [beq_def, key, Key.ofNumber]

def isKey (v : Value) : Bool := v.key ≠ .none

/-- A value for use as a key. -/
def asKey (v : Value) : Except Misuse Value := if v.isKey then .ok v else .error .illTyped

@[simp] theorem asKey_str (s : String) : (str s).asKey = .ok (str s) := rfl

end Value

abbrev Entries := Table Value Value

def Entries.single (key v : Value) : Except Misuse Entries := do return [(← key.asKey, v)]

end DocumentSearch
