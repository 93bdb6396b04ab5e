import DocumentSearch.Value.Key

/-!
# Merging fragments

Two fragments are merged key by key: lists are joined, tables are merged in turn, and of any other
two values the later one stays.
-/
namespace DocumentSearch.Fragment

mutual

/-- What a value becomes at a key where another value may stand already. -/
def mergeValue (existing : Option Value) : Value → Value
  | .list ys =>
    match existing.bind Value.list? with
    | some xs => .list (xs ++ ys)
    | none => .list ys
  | .map later =>
    match existing.bind Value.map? with
    | some earlier => .map (mergeInto earlier later)
    | none => .map later
  | .view part ref contents =>
    if (existing.bind Value.list?).isSome && contents.list?.isSome ||
      (existing.bind Value.map?).isSome && contents.map?.isSome
    then mergeValue existing contents
    else .view part ref contents
  | v => v
termination_by structural v => v

def mergePair (base : Entries) : Value × Value → Entries
  | (key, value) => base.insert key (mergeValue (base.find? key) value)
termination_by structural p => p

def mergeInto (base : Entries) : List (Value × Value) → Entries
  | [] => base
  | p :: rest => mergeInto (mergePair base p) rest
termination_by structural ps => ps

end

def merge (base fragment : Entries) : Entries := mergeInto base fragment

@[simp] theorem merge_nil (base : Entries) : merge base [] = base := rfl

theorem merge_cons (base : Entries) (key value : Value) (rest : Entries) :
    merge base ((key, value) :: rest) =
      merge (base.insert key (mergeValue (base.find? key) value)) rest := rfl

end DocumentSearch.Fragment
