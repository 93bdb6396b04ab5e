import Mathlib.Algebra.GroupWithZero.Nat
import DocumentSearch.Value.Text

/-!
# Lines of a text

Texts that are joined by line breaks give their lines one text after the other. Each has one line
more than it has line breaks, and so it stands on one line only if it has none.
-/
namespace DocumentSearch

open Value (joined)

namespace Text

variable {s t : String}

/-- The lines of a text; what follows the last line break is one too, even if it is empty. -/
def lines (s : String) : List String := (s.toList.splitOn '\n').map String.ofList

/-- How often a line of a text is broken off. -/
def breaks (s : String) : Nat := s.toList.count '\n'

@[simp] theorem breaks_append (s t : String) : breaks (s ++ t) = breaks s + breaks t := by
  rw [breaks, String.toList_append, List.count_append, breaks, breaks]

theorem breaks_ofList (cs : List Char) : breaks (String.ofList cs) = cs.count '\n' := by
  rw [breaks, String.toList_ofList]

theorem breaks_eq_zero : breaks s = 0 ↔ '\n' ∉ s.toList := List.count_eq_zero

theorem lines_break (s t : String) : lines (s ++ "\n" ++ t) = lines s ++ lines t := by
  have apart : (s ++ "\n" ++ t).toList = s.toList ++ '\n' :: t.toList := by simp
  rw [lines, apart, List.splitOn_append_cons_self, List.map_append, lines, lines]

theorem lines_of_unbroken (h : breaks s = 0) : lines s = [s] := by
  rw [lines, List.splitOn_eq_singleton (breaks_eq_zero.mp h), List.map_singleton,
    String.ofList_toList]

theorem length_splitOn (c : Char) (cs : List Char) : (cs.splitOn c).length = cs.count c + 1 := by
  induction cs with
  | nil => rfl
  | cons d cs ih =>
    rw [List.splitOn, List.splitOnP_cons_eq_if_modifyHead]
    split
    · rename_i same
      rw [List.length_cons, ← List.splitOn, ih, eq_of_beq same, List.count_cons_self]
    · rename_i other
      rw [List.length_modifyHead, ← List.splitOn, ih,
        List.count_cons_of_ne fun same => other (beq_of_eq same)]

theorem length_lines (s : String) : (lines s).length = breaks s + 1 := by
  rw [lines, List.length_map, length_splitOn, breaks]

/-- Texts have a line each, and one more for every line break in them. -/
theorem length_flatMap_lines (texts : List String) :
    (texts.flatMap lines).length = texts.length + (texts.map breaks).sum := by
  induction texts with
  | nil => rfl
  | cons s texts ih =>
    rw [List.flatMap_cons, List.length_append, length_lines, ih, List.length_cons, List.map_cons,
      List.sum_cons]
    omega

theorem flatMap_lines_eq {texts : List String} :
    texts.flatMap lines = texts ↔ ∀ s ∈ texts, breaks s = 0 := by
  constructor
  · intro same
    have count := length_flatMap_lines texts
    rw [same, Nat.left_eq_add, List.sum_eq_zero_iff_forall_eq_nat] at count
    exact fun s mem => count _ (List.mem_map_of_mem mem)
  · intro unbroken
    induction texts with
    | nil => rfl
    | cons s texts ih =>
      obtain ⟨first, rest⟩ := List.forall_mem_cons.mp unbroken
      rw [List.flatMap_cons, lines_of_unbroken first, ih rest, List.singleton_append]

theorem joined_cons (separator s t : String) (texts : List String) :
    joined separator (s :: t :: texts) = s ++ separator ++ joined separator (t :: texts) := rfl

theorem lines_joined {texts : List String} (some : texts ≠ []) :
    lines (joined "\n" texts) = texts.flatMap lines := by
  induction texts with
  | nil => exact absurd rfl some
  | cons s texts ih =>
    cases texts with
    | nil => exact (List.append_nil _).symm
    | cons t texts =>
      rw [joined_cons, lines_break, ih (List.cons_ne_nil _ _)]
      rfl

theorem breaks_joined {separator : String} (unbroken : breaks separator = 0)
    (texts : List String) : breaks (joined separator texts) = (texts.map breaks).sum := by
  induction texts with
  | nil => rfl
  | cons s texts ih =>
    cases texts with
    | nil => exact (Nat.add_zero _).symm
    | cons t texts =>
      rw [joined_cons, breaks_append, breaks_append, unbroken, ih, Nat.add_zero]
      rfl

theorem not_mem_toDigits {base : Nat} (h : 1 < base) (n : Nat) : '\n' ∉ Nat.toDigits base n := by
  have digit : ∀ d : Nat, d.digitChar ≠ '\n' := fun d => Nat.digitChar_ne '\n' rfl
  induction n using Nat.strongRecOn with
  | ind n ih =>
    rw [Nat.toDigits_eq_if h]
    split
    · exact fun mem => digit n (List.mem_singleton.mp mem).symm
    · rename_i long
      intro mem
      rcases List.mem_append.mp mem with front | last
      · exact ih (n / base) (Nat.div_lt_self (by omega) h) front
      · exact digit _ (List.mem_singleton.mp last).symm

@[simp] theorem breaks_nat (n : Nat) : breaks (toString n) = 0 := by
  rw [breaks_eq_zero, Nat.toString_eq_repr, Nat.toList_repr]
  exact not_mem_toDigits (by decide) n

@[simp] theorem breaks_int (i : Int) : breaks (toString i) = 0 := by
  cases i with
  | ofNat n => exact breaks_nat n
  | negSucc n =>
    change breaks ("-" ++ toString (n + 1)) = 0
    rw [breaks_append, breaks_nat]
    rfl

end Text

end DocumentSearch
