import DocumentSearch.Execution.Action

/-!
# Arguments and objects

What a script hands around: values, among them the objects that it has names for, and aggregations
that are kept apart from any builder.
-/
namespace DocumentSearch.Session

inductive Argument where
  | value (v : Value)
  /-- An aggregation kept apart, with the calls that fill the builder inside it. -/
  | preset (key type args : Value) (calls : List FluentCall)

namespace Argument

def toValue : Argument → Except Misuse Value
  | value v => .ok v
  | preset .. => .error .illTyped

def ref? : Argument → Option Ref
  | value (.builder ref) => some ref
  | _ => none

end Argument

def valueArguments (args : Arguments Argument) : Except Misuse (Arguments Value) := do
  let positional ← args.positional.mapM Argument.toValue
  let named ← args.named.mapM (fun p => do return (p.1, ← p.2.toValue))
  return ⟨positional, named⟩

/-- A signature over values, read from the arguments of a script. -/
def ofValues {α : Type} (s : Signature Value α) : Signature Argument α := fun args => do
  let values ← valueArguments args
  return (← s.read values, ⟨[], []⟩)

def clauseOf : Value → Except Misuse Clause
  | .clause c => .ok c
  | _ => .error .illTyped

def clausesOf (v : Value) : Except Misuse (List Clause) := do (← v.items).mapM clauseOf

def orderOf : Value → Except Misuse Order
  | .order o => .ok o
  | _ => .error .illTyped

def ordersOf (v : Value) : Except Misuse (List Order) := do (← v.items).mapM orderOf

def aggregationOf : Value → Except Misuse Aggregation
  | .aggregation a => .ok a
  | _ => .error .illTyped

def builderOf : Value → Except Misuse Ref
  | .builder ref => .ok ref
  | _ => .error .illTyped

/-- Whether a connection is given, or none. -/
def givesConnection : Value → Except Misuse Bool
  | .handle .connection => .ok true
  | v => if v.truthy then .error .illTyped else .ok false

end DocumentSearch.Session
