import Mathlib.Tactic.SplitIfs
import DocumentSearch.Proofs.Reply.Json
import DocumentSearch.Proofs.Text.Line

/-!
# Values on one line

In its full form a value of a reply stands on one line, however much is nested in it: the texts
inside are quoted, and line breaks in them are escaped. So only a text on its own brings line breaks
along.
-/
namespace DocumentSearch

namespace Text

variable {quote c : Char}

theorem breaks_ofList_eq_zero {cs : List Char} (h : '\n' ∉ cs) : breaks (String.ofList cs) = 0 := by
  rw [breaks_ofList, List.count_eq_zero.mpr h]

theorem not_mem_hexDigits (width n : Nat) : '\n' ∉ hexDigits width n := by
  intro mem
  rcases List.mem_append.mp mem with filled | shown
  · cases List.eq_of_mem_replicate filled
  · exact not_mem_toDigits (by decide) n shown

theorem not_mem_codeEscape (code : Nat) : '\n' ∉ codeEscape code := by
  unfold codeEscape
  split
  · simp [not_mem_hexDigits]
  · split <;> simp [not_mem_hexDigits]

theorem escape_break (h : quote ≠ '\n') : escape quote '\n' = ['\\', 'n'] := by
  simp [escape, shortEscape?, h.symm]

theorem not_mem_escape (h : quote ≠ '\n') (c : Char) : '\n' ∉ escape quote c := by
  by_cases same : c = '\n'
  · rw [same, escape_break h]
    decide
  · have other : '\n' ≠ c := Ne.symm same
    unfold escape
    split
    · rename_i escaped short
      unfold shortEscape? at short
      split_ifs at short <;> cases short <;> simp [other]
    · split <;> simp [other, not_mem_codeEscape]

theorem quoteFor_ne (cs : List Char) : quoteFor cs ≠ '\n' := by
  unfold quoteFor
  split <;> decide

theorem breaks_quoted (s : String) : breaks (quoted s) = 0 := by
  refine breaks_ofList_eq_zero fun mem => ?_
  rcases List.mem_append.mp mem with mem | closing
  · rcases List.mem_cons.mp mem with opening | inside
    · exact quoteFor_ne _ opening.symm
    · obtain ⟨c, -, escaped⟩ := List.mem_flatMap.mp inside
      exact not_mem_escape (quoteFor_ne _) c escaped
  · exact quoteFor_ne _ (List.mem_singleton.mp closing).symm

end Text

namespace Binary64

theorem not_mem_layout {digits : List Char} (h : '\n' ∉ digits) (point : Int) :
    '\n' ∉ layout digits point := by
  have zeros : ∀ n, '\n' ∉ List.replicate n '0' := fun n mem => by
    cases List.eq_of_mem_replicate mem
  have front : ∀ n, '\n' ∉ digits.take n := fun n mem => h (List.mem_of_mem_take mem)
  have back : ∀ n, '\n' ∉ digits.drop n := fun n mem => h (List.mem_of_mem_drop mem)
  have magnitude : ∀ n, '\n' ∉ Nat.toDigits 10 n := Text.not_mem_toDigits (by decide)
  unfold layout
  dsimp only
  split
  · split
    · simp [zeros, h]
    · split <;> simp [zeros, h, front, back]
  · have sign : '\n' ≠ (if point - 1 < 0 then '-' else '+') := by split <;> decide
    split <;> simp_all

theorem breaks_unsignedText (significand : Nat) (exponent : Int) :
    Text.breaks (unsignedText significand exponent) = 0 := by
  unfold unsignedText
  split
  · decide
  · refine Text.breaks_ofList_eq_zero (not_mem_layout (fun mem => ?_) _)
    have digit := List.mem_reverse.mp ((List.dropWhile_sublist _).mem (List.mem_reverse.mp mem))
    exact Text.not_mem_toDigits (by decide) _ digit

theorem breaks_text (x : Binary64) : Text.breaks x.text = 0 := by
  cases x with
  | finite negative m q =>
    unfold text
    rw [Text.breaks_append, breaks_unsignedText]
    cases negative <;> decide
  | infinite negative => cases negative <;> decide
  | nan origin => exact (by decide : Text.breaks "nan" = 0)

end Binary64

namespace Value

theorem breaks_joined_full {texts : List String} (each : ∀ s ∈ texts, Text.breaks s = 0) :
    Text.breaks (joined ", " texts) = 0 := by
  rw [Text.breaks_joined (by decide)]
  refine List.sum_eq_zero_iff_forall_eq_nat.mpr fun n mem => ?_
  obtain ⟨s, inside, rfl⟩ := List.mem_map.mp mem
  exact each s inside

mutual

theorem breaks_full : ∀ v : Value, v.isJson = true → Text.breaks v.full = 0
  | .null, _ => (by decide : Text.breaks "None" = 0)
  | .bool true, _ => (by decide : Text.breaks "True" = 0)
  | .bool false, _ => (by decide : Text.breaks "False" = 0)
  | .int i, _ => Text.breaks_int i
  | .float x, _ => x.breaks_text
  | .str s, _ => Text.breaks_quoted s
  | .list items, json => by
    have inside := breaks_joined_full (breaks_fullEach items json)
    change Text.breaks ("[" ++ joined ", " (fullEach items) ++ "]") = 0
    rw [Text.breaks_append, Text.breaks_append, inside]
    decide
  | .map entries, json => by
    have inside := breaks_joined_full (breaks_fullPairs entries json)
    change Text.breaks ("\x7b" ++ joined ", " (fullPairs entries) ++ "\x7d") = 0
    rw [Text.breaks_append, Text.breaks_append, inside]
    decide
  | .bytes _, json | .tuple _, json | .date _, json | .moment _, json | .unit _, json
  | .point _, json | .bounds _, json | .builder _, json | .record _ _, json | .response _, json
  | .convertible _, json | .clause _, json | .order _, json | .aggregation _, json
  | .entity _ _, json | .view _ _ _, json | .handle _, json => nomatch json
termination_by structural v => v

theorem breaks_fullEach :
    ∀ items : List Value, eachIsJson items = true → ∀ s ∈ fullEach items, Text.breaks s = 0
  | [], _ => nofun
  | v :: rest, json => by
    rw [eachIsJson, Bool.and_eq_true] at json
    exact List.forall_mem_cons.mpr ⟨breaks_full v json.1, breaks_fullEach rest json.2⟩
termination_by structural items => items

theorem breaks_fullPair : ∀ p : Value × Value, entryIsJson p = true → Text.breaks (fullPair p) = 0
  | (k, v), json => by
    rw [entryIsJson, Bool.and_eq_true] at json
    change Text.breaks (full k ++ ": " ++ full v) = 0
    rw [Text.breaks_append, Text.breaks_append, breaks_full k json.1, breaks_full v json.2]
    decide
termination_by structural p => p

theorem breaks_fullPairs : ∀ entries : List (Value × Value), entriesAreJson entries = true →
    ∀ s ∈ fullPairs entries, Text.breaks s = 0
  | [], _ => nofun
  | p :: rest, json => by
    rw [entriesAreJson, Bool.and_eq_true] at json
    exact List.forall_mem_cons.mpr ⟨breaks_fullPair p json.1, breaks_fullPairs rest json.2⟩
termination_by structural entries => entries

end

/-- The line breaks that a value brings into a sentence. -/
def breaks : Value → Nat
  | str s => Text.breaks s
  | _ => 0

theorem breaks_text {v : Value} (json : v.isJson = true) : Text.breaks v.text = v.breaks := by
  cases v with
  | str s => rfl
  | null | bool | int | float | list | map => exact breaks_full _ json
  | _ => cases json

end Value

end DocumentSearch
