import DocumentSearch.Builder

/-!
# Stores of builders

Builders refer to one another by their places in a store, so a builder that changes after it was
used in a clause changes what that clause means.
-/
namespace DocumentSearch

structure Store where
  builders : List Builder

namespace Store

def empty : Store := ⟨[]⟩

def size (s : Store) : Nat := s.builders.length

def get (s : Store) (ref : Ref) : Builder := s.builders[ref.index]?.getD default

def set (s : Store) (ref : Ref) (b : Builder) : Store := ⟨s.builders.set ref.index b⟩

def modify (s : Store) (ref : Ref) (f : Builder → Builder) : Store := s.set ref (f (s.get ref))

/-- Adds a builder at the end and gives its place. -/
def add (s : Store) (b : Builder) : Ref × Store := (⟨s.builders.length⟩, ⟨s.builders ++ [b]⟩)

theorem get_set_self (s : Store) (ref : Ref) (b : Builder) (h : ref.index < s.size) :
    (s.set ref b).get ref = b := by
  simp only [size] at h
  simp [get, set, List.getElem?_set_self h]

theorem get_set_of_ne (s : Store) {ref other : Ref} (b : Builder) (h : other ≠ ref) :
    (s.set ref b).get other = s.get other := by
  have h' : ref.index ≠ other.index := fun e => h (by cases ref; cases other; simp_all)
  simp [get, set, List.getElem?_set_ne h']

theorem get_add_self (s : Store) (b : Builder) : (s.add b).2.get (s.add b).1 = b := by
  simp [get, add]

theorem get_add_of_lt (s : Store) (b : Builder) {ref : Ref} (h : ref.index < s.size) :
    (s.add b).2.get ref = s.get ref := by
  simp only [size] at h
  simp [get, add, List.getElem?_append_left h]

theorem get_of_unknown {s : Store} {ref : Ref} (unknown : s.size ≤ ref.index) :
    s.get ref = default := by
  rw [get, List.getElem?_eq_none unknown, Option.getD_none]

theorem set_get (s : Store) (ref : Ref) : s.set ref (s.get ref) = s := by
  by_cases known : ref.index < s.builders.length
  · simp [set, get, List.getElem?_eq_getElem known]
  · rw [set, List.set_eq_of_length_le (Nat.le_of_not_lt known)]

@[simp] theorem size_set (s : Store) (ref : Ref) (b : Builder) : (s.set ref b).size = s.size := by
  simp [size, set]

theorem get_modify (s : Store) (ref r : Ref) (f : Builder → Builder) :
    (s.modify ref f).get r = if r = ref ∧ ref.index < s.size then f (s.get r) else s.get r := by
  by_cases own : r = ref
  · subst own
    by_cases known : r.index < s.size
    · rw [modify, get_set_self s r _ known, if_pos ⟨rfl, known⟩]
    · rw [get_of_unknown (by rw [modify, size_set]; exact Nat.le_of_not_lt known),
        if_neg fun h => known h.2, get_of_unknown (Nat.le_of_not_lt known)]
  · rw [modify, get_set_of_ne s _ own, if_neg fun h => own h.1]

end Store

end DocumentSearch
