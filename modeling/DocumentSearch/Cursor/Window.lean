import DocumentSearch.Connection.Basic

/-!
# Windows

A window is the stretch of hits that a request asks for: how many to skip, how many to read in all,
and how many to ask for at first. What is to be skipped is looked at with the first hit only.
-/
namespace DocumentSearch

structure Window where
  skip : Value
  /-- The number of hits that are read, skipped ones included; no number reads them all. -/
  total : Option Number
  size : Value

namespace Window

/-- No context holds as many hits. -/
def endless : Nat := 9223372036854775807

/-- The number of hits that are skipped; a NaN, like infinity, skips them all. -/
def skipOf (skip : Value) : Except Misuse Nat := do
  match (← skip.number).extended? with
  | some (.finite r) => return r.floor.toNat
  | some .bottom => return 0
  | _ => return endless

/-- A size of zero, like a missing one, sets no bound. -/
def ofBody (body : Entries) (scrollSize : Number) : Except Misuse Window := do
  let skip := (Value.under body "from").orElse (.int 0)
  let limit := (Value.under body "size").orElse (.int 0)
  let total ← if limit.truthy then (← skip.number).add (← limit.number) else pure (.int 0)
  if total.isZero then return ⟨skip, none, .ofNumber scrollSize⟩
  else return ⟨skip, some total, .ofNumber (total.min scrollSize)⟩

def reached (w : Window) (consumed : Nat) : Bool :=
  match w.total with
  | some n => n.le (.int consumed)
  | none => false

/-- The number of hits that are still to be read; zero reads them all. -/
def remaining (w : Window) (consumed : Nat) : Except Misuse Value :=
  match w.total with
  | some n => do return .ofNumber (← n.sub (.int consumed))
  | none => .ok (.int 0)

/-- The body that is sent: the page is left out and the first size put in. -/
def firstBody (w : Window) (body : Entries) : Entries :=
  ((body.erase "from").erase "size").insert "size" w.size

end Window

end DocumentSearch
