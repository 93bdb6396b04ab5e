import DocumentSearch.Table
import DocumentSearch.Number.Basic

/-!
# Arguments of a call

A call gives some arguments by place and others by name. A signature reads its parameters in order;
an argument that no parameter reads makes the call ill-typed.
-/
namespace DocumentSearch

structure Arguments (α : Type) where
  positional : List α
  named : Table String α

/-- Reads the parameters of a signature from the arguments that are left. -/
abbrev Signature (α β : Type) := StateT (Arguments α) (Except Misuse) β

namespace Signature

variable {α β : Type}

/-- A parameter given by place or, after the last place, by name. -/
def optional (name : String) : Signature α (Option α) := fun args =>
  match args.positional with
  | v :: rest => .ok (some v, { args with positional := rest })
  | [] => .ok (args.named.find? name, { args with named := args.named.erase name })

def required (name : String) : Signature α α := do
  match ← optional name with
  | some v => return v
  | none => throw .illTyped

def withDefault (name : String) (default : α) : Signature α α := do
  return (← optional name).getD default

def named (name : String) : Signature α (Option α) := fun args =>
  .ok (args.named.find? name, { args with named := args.named.erase name })

def remaining : Signature α (Arguments α) := fun args => .ok (args, ⟨[], []⟩)

def remainingPlaces : Signature α (List α) := fun args =>
  .ok (args.positional, { args with positional := [] })

def read (s : Signature α β) (args : Arguments α) : Except Misuse β :=
  match s args with
  | .error e => .error e
  | .ok (b, ⟨[], []⟩) => .ok b
  | .ok _ => .error .illTyped

end Signature

end DocumentSearch
