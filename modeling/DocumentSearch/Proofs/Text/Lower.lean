import DocumentSearch.Text.Ascii
import DocumentSearch.Text.SnakeCase

/-!
# Lower case in ASCII

Of the rules that lower a letter only the first one is about ASCII, and the two characters that need
more are not in it. So an ASCII text is lowered one character at a time.
-/
namespace DocumentSearch.Text

theorem isCapital_iff {c : Char} : isCapital c = true ↔ 65 ≤ c.toNat ∧ c.toNat ≤ 90 := by
  rw [isCapital, Bool.and_eq_true_iff, decide_eq_true_iff, decide_eq_true_iff]
  exact Iff.rfl

theorem toNat_asciiLower (c : Char) :
    (asciiLower c).toNat = if 65 ≤ c.toNat ∧ c.toNat ≤ 90 then c.toNat + 32 else c.toNat := by
  have capital : 'A' ≤ c ∧ c ≤ 'Z' ↔ 65 ≤ c.toNat ∧ c.toNat ≤ 90 := Iff.rfl
  rw [asciiLower]
  simp only [capital]
  split
  · rename_i bounds
    have valid : (c.toNat + 32).isValidChar := .inl (by omega)
    rw [Char.ofNat, dif_pos valid]
    rfl
  · rfl

theorem isCapital_asciiLower (c : Char) : isCapital (asciiLower c) = false := by
  rw [← Bool.not_eq_true, isCapital_iff, toNat_asciiLower]
  split <;> omega

theorem asciiLower_of_not_isCapital {c : Char} (plain : isCapital c = false) :
    asciiLower c = c := by
  rw [← Bool.not_eq_true, isCapital_iff] at plain
  rw [← Char.toNat_inj, toNat_asciiLower, if_neg plain]

theorem asciiLower_lt {c : Char} (ascii : c.toNat < 128) : (asciiLower c).toNat < 128 := by
  rw [toNat_asciiLower]
  split <;> omega

theorem asciiLower_eq_mark (c : Char) : asciiLower c = '_' ↔ c = '_' := by
  have mark : '_'.toNat = 95 := rfl
  rw [← Char.toNat_inj, ← Char.toNat_inj, toNat_asciiLower, mark]
  split <;> omega

theorem lowerCode_ascii {code : Nat} (ascii : code < 128) :
    lowerCode code = if 65 ≤ code ∧ code ≤ 90 then code + 32 else code := by
  have rules : lowerRules = (65, 90, 1, 32) :: lowerRules.tail := rfl
  have later : ∀ r ∈ lowerRules.tail, 128 ≤ r.1 := by decide +kernel
  have others : lowerRules.tail.find? (fun r => r.1 ≤ code && code ≤ r.2.1 &&
      (code - r.1) % r.2.2.1 == 0) = none := by
    rw [List.find?_eq_none]
    intro r mem
    have first := later r mem
    have out : ¬r.1 ≤ code := by omega
    simp [out]
  rw [lowerCode, rules, List.find?_cons, others, Nat.mod_one]
  by_cases capital : 65 ≤ code ∧ code ≤ 90
  · simp [capital]
    omega
  · have out : (decide (65 ≤ code) && decide (code ≤ 90)) = false := by simpa using capital
    rw [out, if_neg capital]
    rfl

theorem lowerAt_ascii {c : Char} (ascii : c.toNat < 128) (before after : List Char) :
    lowerAt before c after = [asciiLower c] := by
  have sigma : c ≠ 'Σ' := by
    rintro rfl
    exact absurd ascii (by decide)
  have dotted : c ≠ 'İ' := by
    rintro rfl
    exact absurd ascii (by decide)
  rw [lowerAt, if_neg sigma, if_neg dotted, lowerCode_ascii ascii, ← toNat_asciiLower,
    Char.ofNat_toNat]

theorem lowerFrom_ascii {cs : List Char} (ascii : ∀ c ∈ cs, c.toNat < 128) (before : List Char) :
    lowerFrom before cs = cs.map asciiLower := by
  induction cs generalizing before with
  | nil => rfl
  | cons c cs ih =>
    obtain ⟨first, rest⟩ := List.forall_mem_cons.mp ascii
    rw [lowerFrom, lowerAt_ascii first, ih rest, List.singleton_append, List.map_cons]

theorem toList_lower {s : String} (ascii : ∀ c ∈ s.toList, c.toNat < 128) :
    (lower s).toList = s.toList.map asciiLower := by
  rw [lower, String.toList_ofList, lowerFrom_ascii ascii]

end DocumentSearch.Text
