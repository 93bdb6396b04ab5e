import DocumentSearch.Proofs.Text.Lower

/-!
# Words of a name in snake case

The two passes over a name put one underscore in front of each capital that starts a word, and
nothing else: the first one misses only words whose capital comes right after the small letters of
another word, and these are what the second one looks for. Lowering an ASCII name then lowers each
character by itself, so that a name in snake case stays as it is.
-/
namespace DocumentSearch.Text

def gap (opened : Bool) : List Char := if opened then ['_'] else []

/-- Text with an underscore in front of each character that `opens` by the characters on both
sides of it. -/
def setOff (opens : Option Char → Char → Option Char → Bool) : Option Char → List Char → List Char
  | _, [] => []
  | before, c :: rest => gap (opens before c rest.head?) ++ c :: setOff opens (some c) rest

def letters (cs : List Char) : List Char := cs.filter (· ≠ '_')

def isJoined (before : Option Char) (c : Char) (_after : Option Char) : Bool :=
  before.any isSmallOrDigit && isCapital c

/-- A capital starts a word after a small letter or a digit, and in front of a small letter unless
it is first on its line. -/
def startsWord (before : Option Char) (c : Char) (after : Option Char) : Bool :=
  isJoined before c after || before.any (· ≠ '\n') && isCapital c && after.any isSmall

theorem letters_append (cs ds : List Char) : letters (cs ++ ds) = letters cs ++ letters ds :=
  List.filter_append ..

theorem letters_cons_congr {cs ds : List Char} (same : letters cs = letters ds) (c : Char) :
    letters (c :: cs) = letters (c :: ds) := by
  rw [← List.singleton_append, letters_append, same, ← letters_append, List.singleton_append]

theorem letters_gap (opened : Bool) (cs : List Char) : letters (gap opened ++ cs) = letters cs := by
  cases opened <;> rfl

theorem letters_gap_nil (opened : Bool) : letters (gap opened) = [] := by
  cases opened <;> rfl

section SetOff

variable {opens : Option Char → Char → Option Char → Bool}

theorem letters_setOff (before : Option Char) (cs : List Char) :
    letters (setOff opens before cs) = letters cs := by
  induction cs generalizing before with
  | nil => rfl
  | cons c cs ih => rw [setOff, letters_gap, letters_cons_congr (ih (some c))]

theorem mem_of_mem_setOff {before : Option Char} {cs : List Char} {c : Char}
    (mem : c ∈ setOff opens before cs) : c = '_' ∨ c ∈ cs := by
  by_cases mark : c = '_'
  · exact .inl mark
  · have kept : c ∈ letters (setOff opens before cs) :=
      List.mem_filter.mpr ⟨mem, decide_eq_true mark⟩
    rw [letters_setOff] at kept
    exact .inr (List.mem_filter.mp kept).1

theorem setOff_eq_self {cs : List Char}
    (closed : ∀ c ∈ cs, ∀ before after, opens before c after = false) (before : Option Char) :
    setOff opens before cs = cs := by
  induction cs generalizing before with
  | nil => rfl
  | cons c cs ih =>
    obtain ⟨first, rest⟩ := List.forall_mem_cons.mp closed
    rw [setOff, first, ih rest]
    rfl

variable (opens) in
/-- Text behind a character is set off by itself. -/
theorem setOff_append (before : Option Char) (front : List Char) (p : Char) (back : List Char) :
    ∃ left, letters left = letters front ∧
      setOff opens before (front ++ p :: back) = left ++ p :: setOff opens (some p) back := by
  induction front generalizing before with
  | nil => exact ⟨gap (opens before p back.head?), letters_gap_nil _, rfl⟩
  | cons c front ih =>
    obtain ⟨left, same, rest⟩ := ih (some c)
    refine ⟨gap (opens before c (front ++ p :: back).head?) ++ c :: left, ?_, ?_⟩
    · rw [letters_gap, letters_cons_congr same]
    · rw [List.cons_append, setOff, rest, List.append_assoc, List.cons_append]

end SetOff

theorem separateCapitals_cons (c : Char) (cs : List Char) :
    separateCapitals (c :: cs) = c :: setOff isJoined (some c) cs := by
  induction cs generalizing c with
  | nil => rfl
  | cons u rest ih =>
    rw [separateCapitals, ih, setOff, isJoined, Option.any_some]
    cases isSmallOrDigit c && isCapital u <;> rfl

/-- The second pass sets off every capital that is joined to what is in front of it. -/
theorem separateCapitals_eq_setOff (cs : List Char) :
    separateCapitals cs = setOff isJoined none cs := by
  cases cs with
  | nil => rfl
  | cons c cs =>
    rw [separateCapitals_cons]
    rfl

theorem isSmall_iff {c : Char} : isSmall c = true ↔ 97 ≤ c.toNat ∧ c.toNat ≤ 122 := by
  rw [isSmall, Bool.and_eq_true_iff, decide_eq_true_iff, decide_eq_true_iff]
  exact Iff.rfl

theorem not_isCapital_of_isSmall {c : Char} (small : isSmall c = true) : isCapital c = false := by
  rw [← Bool.not_eq_true, isCapital_iff]
  rw [isSmall_iff] at small
  omega

theorem isJoined_of_not_isCapital {c : Char} (plain : isCapital c = false)
    (before after : Option Char) : isJoined before c after = false := by
  rw [isJoined, plain, Bool.and_false]

theorem startsWord_of_not_isCapital {c : Char} (plain : isCapital c = false)
    (before after : Option Char) : startsWord before c after = false := by
  simp [startsWord, isJoined, plain]

/-- If a word starts at the head of a text, its capital is joined to what is in front of it. -/
def Settled (before : Option Char) (cs : List Char) : Prop :=
  ∀ c rest, cs = c :: rest → startsWord before c rest.head? = isJoined before c rest.head?

theorem settled_of_isSmall {c : Char} (small : isSmall c = true) (cs : List Char) :
    Settled (some c) cs := by
  rintro u rest -
  cases capital : isCapital u <;> simp [startsWord, isJoined, isSmallOrDigit, small, capital]

theorem settled_of_not {c : Char} {cs : List Char}
    (unset : ∀ u l tail, cs = u :: l :: tail → (c ≠ '\n' && isCapital u && isSmall l) = false) :
    Settled (some c) cs := by
  rintro u rest rfl
  rw [startsWord]
  cases rest with
  | nil => simp
  | cons l tail =>
    have first := unset u l tail rfl
    rw [List.head?_cons, Option.any_some, Option.any_some, first, Bool.or_false]

/-- Both ways of setting off agree at a settled head. -/
theorem setOff_cons_of_settled {before : Option Char} {c : Char} {cs rest : List Char}
    (settled : Settled before (c :: rest))
    (later : setOff isJoined (some c) cs = setOff startsWord (some c) rest) :
    setOff isJoined before (c :: cs) = setOff startsWord before (c :: rest) := by
  rw [setOff, setOff, settled c rest rfl, later]
  rfl

/-- Together the two passes set off the characters that start a word. -/
theorem setOff_separateWords (inWord : Bool) (before : Option Char) (cs : List Char)
    (settled : Settled before cs) :
    setOff isJoined before (separateWords inWord cs) = setOff startsWord before cs := by
  fun_induction separateWords inWord cs generalizing before with
  | case1 => rfl
  | case2 inWord c rest reading ih =>
    have small : isSmall c = true := (Bool.and_eq_true_iff.mp reading).2
    exact setOff_cons_of_settled settled (ih _ (settled_of_isSmall small rest))
  | case3 inWord c _ u l tail starts ih =>
    obtain ⟨starts, small⟩ := Bool.and_eq_true_iff.mp starts
    have letter : isCapital l = false := not_isCapital_of_isSmall small
    have word : startsWord (some c) u (some l) = true := by
      rw [startsWord, Option.any_some, Option.any_some, starts, small, Bool.and_self, Bool.or_true]
    have mark : ∀ after, isJoined (some c) '_' after = false :=
      isJoined_of_not_isCapital (by decide) _
    have apart : ∀ after, isJoined (some '_') u after = false := fun _ => rfl
    refine setOff_cons_of_settled settled ?_
    simp only [setOff, List.head?_cons, word, mark, apart, isJoined_of_not_isCapital letter,
      startsWord_of_not_isCapital letter, ih _ (settled_of_isSmall small tail)]
    rfl
  | case4 inWord c _ u l tail starts ih =>
    refine setOff_cons_of_settled settled (ih _ (settled_of_not ?_))
    rintro _ _ _ ⟨⟩
    exact Bool.eq_false_iff.mpr starts
  | case5 inWord c _ rest short ih =>
    refine setOff_cons_of_settled settled (ih _ (settled_of_not ?_))
    exact fun u l tail long => (short u l tail long).elim

theorem snakeCase_eq (name : String) :
    snakeCase name = lower (String.ofList (setOff startsWord none name.toList)) := by
  have first : Settled none name.toList := fun _ _ _ => rfl
  rw [snakeCase, separateCapitals_eq_setOff, setOff_separateWords _ _ _ first]

example : snakeCase "HTTPLog2Entry" = "http_log2_entry" := by decide +kernel

theorem map_gap (opened : Bool) : (gap opened).map asciiLower = gap opened := by
  cases opened <;> rfl

theorem letters_map_asciiLower (cs : List Char) :
    letters (cs.map asciiLower) = (letters cs).map asciiLower := by
  have same : (fun c => decide (c ≠ '_')) ∘ asciiLower = fun c => decide (c ≠ '_') := by
    funext c
    simp only [Function.comp_apply, ne_eq, asciiLower_eq_mark]
  rw [letters, List.filter_map, same, letters]

def isWordCharacter (c : Char) : Bool := isSmallOrDigit c || isCapital c || c == '_'

theorem toNat_of_isWordCharacter {c : Char} (word : isWordCharacter c = true) :
    48 ≤ c.toNat ∧ c.toNat ≤ 122 := by
  have digit : '0' ≤ c ∧ c ≤ '9' ↔ 48 ≤ c.toNat ∧ c.toNat ≤ 57 := Iff.rfl
  simp only [isWordCharacter, isSmallOrDigit, Bool.or_eq_true, Bool.and_eq_true, isSmall_iff,
    isCapital_iff, decide_eq_true_eq, digit, beq_iff_eq] at word
  rcases word with ((small | digit) | capital) | rfl
  · omega
  · omega
  · omega
  · decide

theorem startsWord_of_ne {p : Char} (line : p ≠ '\n') (c : Char) (after : Option Char) :
    startsWord (some p) c after = (isCapital c && (isSmallOrDigit p || after.any isSmall)) := by
  cases capital : isCapital c <;> simp [startsWord, isJoined, capital, line]

theorem setOff_ascii {cs : List Char} (ascii : ∀ c ∈ cs, c.toNat < 128) :
    ∀ c ∈ setOff startsWord none cs, c.toNat < 128 := by
  intro c mem
  rcases mem_of_mem_setOff mem with rfl | mem
  · decide
  · exact ascii c mem

theorem toList_snakeCase {name : String} (ascii : ∀ c ∈ name.toList, c.toNat < 128) :
    (snakeCase name).toList = (setOff startsWord none name.toList).map asciiLower := by
  rw [snakeCase_eq, lower, String.toList_ofList, String.toList_ofList,
    lowerFrom_ascii (setOff_ascii ascii)]

theorem snakeCase_of_lowered {s : String} (ascii : ∀ c ∈ s.toList, c.toNat < 128)
    (lowered : ∀ c ∈ s.toList, isCapital c = false) : snakeCase s = s := by
  have closed : setOff startsWord none s.toList = s.toList :=
    setOff_eq_self (fun c mem => startsWord_of_not_isCapital (lowered c mem)) none
  have same : s.toList.map asciiLower = s.toList := by
    rw [List.map_congr_left fun c mem => asciiLower_of_not_isCapital (lowered c mem), List.map_id']
  rw [← String.toList_inj, toList_snakeCase ascii, closed, same]

/-- A name in snake case has no capitals, and is the lowered name apart from underscores. Of two
characters of the name that follow one another the second is set off if and only if it is a capital
that comes after a small letter or a digit or in front of a small letter. A name in snake case stays
as it is. -/
theorem snakeCase_words {name : String} (word : ∀ c ∈ name.toList, isWordCharacter c = true) :
    (∀ c ∈ (snakeCase name).toList, isCapital c = false) ∧
      letters (snakeCase name).toList = letters (lower name).toList ∧
      (∀ front p c back, name.toList = front ++ p :: c :: back →
        ∃ left right, (snakeCase name).toList = left ++ asciiLower p ::
            (gap (isCapital c && (isSmallOrDigit p || back.head?.any isSmall)) ++
              asciiLower c :: right) ∧
          letters left = letters (front.map asciiLower) ∧
          letters right = letters (back.map asciiLower)) ∧
      snakeCase (snakeCase name) = snakeCase name := by
  have ascii : ∀ c ∈ name.toList, c.toNat < 128 := fun c mem => by
    have := toNat_of_isWordCharacter (word c mem)
    omega
  have written := toList_snakeCase ascii
  have lowered : ∀ c ∈ (snakeCase name).toList, isCapital c = false := by
    intro c mem
    rw [written] at mem
    obtain ⟨d, -, rfl⟩ := List.mem_map.mp mem
    exact isCapital_asciiLower d
  refine ⟨lowered, ?_, ?_, snakeCase_of_lowered ?_ lowered⟩
  · rw [written, letters_map_asciiLower, letters_setOff, ← letters_map_asciiLower,
      ← toList_lower ascii]
  · intro front p c back split
    have line : p ≠ '\n' := by
      rintro rfl
      have mem : '\n' ∈ name.toList := by simp [split]
      exact absurd (word _ mem) (by decide)
    obtain ⟨left, same, rest⟩ := setOff_append startsWord none front p (c :: back)
    refine ⟨left.map asciiLower, (setOff startsWord (some c) back).map asciiLower, ?_, ?_, ?_⟩
    · rw [written, split, rest, setOff, startsWord_of_ne line]
      simp [map_gap]
    · rw [letters_map_asciiLower, same, ← letters_map_asciiLower]
    · rw [letters_map_asciiLower, letters_setOff, ← letters_map_asciiLower]
  · intro c mem
    rw [written] at mem
    obtain ⟨d, inside, rfl⟩ := List.mem_map.mp mem
    exact asciiLower_lt (setOff_ascii ascii d inside)

/-- In a name with an abbreviation and a digit the word behind each of them is set off. -/
theorem snakeCase_words_log :
    (∀ c ∈ "HTTPLog2Entry".toList, isWordCharacter c = true) ∧
      (∃ left right, (snakeCase "HTTPLog2Entry").toList = left ++ 'p' :: '_' :: 'l' :: right ∧
        letters left = ['h', 't', 't']) ∧
      (∃ left right, (snakeCase "HTTPLog2Entry").toList = left ++ '2' :: '_' :: 'e' :: right ∧
        letters right = ['n', 't', 'r', 'y']) ∧
      snakeCase (snakeCase "HTTPLog2Entry") = snakeCase "HTTPLog2Entry" := by
  have word : ∀ c ∈ "HTTPLog2Entry".toList, isWordCharacter c = true :=
    List.all_eq_true.mp (by decide)
  obtain ⟨-, -, gaps, again⟩ := snakeCase_words word
  obtain ⟨left, right, abbreviation, front, -⟩ := gaps ['H', 'T', 'T'] 'P' 'L' "og2Entry".toList rfl
  obtain ⟨left', right', digit, -, back⟩ := gaps "HTTPLog".toList '2' 'E' "ntry".toList rfl
  exact ⟨word, ⟨left, right, abbreviation, front⟩, ⟨left', right', digit, back⟩, again⟩

end DocumentSearch.Text
