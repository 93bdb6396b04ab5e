import DocumentSearch.Proofs.Calendar.Reread

/-!
# The order of texts in the default pattern

Numbers that are written in the same width are in the order of their digits, and marks in the same
place do not count. So the texts of moments whose years have four digits are in the order of the six
numbers of the moments, one number after the other.
-/
namespace DocumentSearch

/-- What follows two starts of one length counts only if the starts are the same. -/
theorem append_lt_append_iff {α : Type} [LT α] {front back : List α}
    (length : front.length = back.length) (x y : List α) :
    front ++ x < back ++ y ↔ front < back ∨ front = back ∧ x < y := by
  induction front generalizing back with
  | nil =>
    obtain rfl : back = [] := List.length_eq_zero_iff.mp length.symm
    simp
  | cons a front ih =>
    cases back with
    | nil => cases length
    | cons b back =>
      have shorter : front.length = back.length := Nat.succ.inj length
      simp only [List.cons_append, List.cons_lt_cons_iff, List.cons.injEq, ih shorter, and_or_left,
        or_assoc, and_assoc]

theorem ofDigitChars_lt_iff {few many : List Char} (length : few.length = many.length)
    (fewDigits : ∀ c ∈ few, c.isDigit = true) (manyDigits : ∀ c ∈ many, c.isDigit = true)
    (a b : Nat) :
    Nat.ofDigitChars 10 few a < Nat.ofDigitChars 10 many b ↔ a < b ∨ a = b ∧ few < many := by
  induction few generalizing many a b with
  | nil =>
    obtain rfl : many = [] := List.length_eq_zero_iff.mp length.symm
    simp
  | cons c few ih =>
    cases many with
    | nil => cases length
    | cons d many =>
      obtain ⟨c_digit, fewDigits⟩ := List.forall_mem_cons.mp fewDigits
      obtain ⟨d_digit, manyDigits⟩ := List.forall_mem_cons.mp manyDigits
      have c_bounds : 48 ≤ c.toNat ∧ c.toNat ≤ 57 := Char.isDigit_iff_toNat.mp c_digit
      have d_bounds : 48 ≤ d.toNat ∧ d.toNat ≤ 57 := Char.isDigit_iff_toNat.mp d_digit
      have zero : '0'.toNat = 48 := rfl
      have order : c < d ↔ c.toNat < d.toNat := Iff.rfl
      have first : 10 * a + (c.toNat - 48) < 10 * b + (d.toNat - 48) ↔
          a < b ∨ a = b ∧ c < d := by
        rw [order]
        omega
      have same : 10 * a + (c.toNat - 48) = 10 * b + (d.toNat - 48) ↔ a = b ∧ c = d := by
        rw [← Char.toNat_inj]
        omega
      rw [Nat.ofDigitChars_cons, Nat.ofDigitChars_cons, ih (Nat.succ.inj length) fewDigits
        manyDigits, zero, first, same, List.cons_lt_cons_iff, and_or_left, or_assoc, and_assoc]

variable {width n m : Nat}

theorem padded_inj : padded width n = padded width m ↔ n = m := by
  refine ⟨fun same => ?_, fun same => by rw [same]⟩
  rw [← ofDigitChars_padded width n, same, ofDigitChars_padded]

theorem padded_lt_iff (length : (padded width n).length = (padded width m).length) :
    padded width n < padded width m ↔ n < m := by
  have order := ofDigitChars_lt_iff length (fun _ => isDigit_of_mem_padded)
    (fun _ => isDigit_of_mem_padded) 0 0
  rw [ofDigitChars_padded, ofDigitChars_padded] at order
  simpa using order.symm

theorem padded_append_lt_iff (length : (padded width n).length = (padded width m).length)
    (mark : Char) (x y : List Char) :
    padded width n ++ mark :: x < padded width m ++ mark :: y ↔ n < m ∨ n = m ∧ x < y := by
  rw [append_lt_append_iff length, padded_lt_iff length, padded_inj, List.cons_lt_cons_iff]
  simp

namespace Date

theorem length_year (d : Date) (late : 1000 ≤ d.year) : (padded 1 d.year).length = 4 := by
  have last := d.year_bounds.2
  have upper : (padded 1 d.year).length ≤ 4 :=
    length_padded_le (by omega) (by decide) (by decide)
  have lower : ¬(Nat.toDigits 10 d.year).length ≤ 3 := by
    rw [Nat.length_toDigits_le_iff (by decide) (by decide)]
    omega
  simp only [padded, List.length_append, List.length_replicate] at upper ⊢
  omega

end Date

namespace Moment

def numbers (t : Moment) : List Nat :=
  [t.date.year, t.date.month, t.date.day, t.hour, t.minute, t.second]

theorem stamp_eq_iff {t u : Moment} : t.stamp = u.stamp ↔ t.numbers = u.numbers := by
  constructor
  · intro same
    have read : numbersIn t.stamp = numbersIn u.stamp := by rw [same]
    rwa [numbersIn_stamp, numbersIn_stamp] at read
  · intro same
    simp only [numbers, List.cons.injEq] at same
    obtain ⟨year, month, day, hour, minute, second, -⟩ := same
    rw [stamp, stamp, year, month, day, hour, minute, second]

/-- With years of four digits each number has its own place. -/
theorem stamp_lt_iff {t u : Moment} (early : 1000 ≤ t.date.year) (late : 1000 ≤ u.date.year) :
    t.stamp < u.stamp ↔ t.numbers < u.numbers := by
  have years : (padded 1 t.date.year).length = (padded 1 u.date.year).length := by
    rw [t.date.length_year early, u.date.length_year late]
  have two : ∀ {n m : Nat}, n < 10 ^ 2 → m < 10 ^ 2 →
      (padded 2 n).length = (padded 2 m).length := fun n_lt m_lt => by
    rw [length_padded n_lt (by decide), length_padded m_lt (by decide)]
  obtain ⟨month, day, hour, minute, second⟩ := t.fields_lt
  obtain ⟨month', day', hour', minute', second'⟩ := u.fields_lt
  rw [stamp, stamp, padded_append_lt_iff years, padded_append_lt_iff (two month month'),
    padded_append_lt_iff (two day day'), padded_append_lt_iff (two hour hour'),
    padded_append_lt_iff (two minute minute'), padded_lt_iff (two second second')]
  simp [numbers, List.cons_lt_cons_iff]

end Moment

namespace Value

/-- The moment that a date stands for, which for a plain date is its midnight. -/
def moment? : Value → Option Moment
  | date d => some d.midnight
  | moment m => some m
  | _ => none

theorem convertDate_default {v : Value} {t : Moment} (stands : v.moment? = some t) :
    v.convertDate defaultDatePattern = .ok (.str (String.ofList t.stamp)) ∧
      v.convertDates defaultDatePattern = .ok (.str (String.ofList t.stamp)) := by
  rw [← t.format_default]
  cases v with
  | date d =>
    cases stands
    exact ⟨rfl, rfl⟩
  | moment m =>
    cases stands
    exact ⟨rfl, rfl⟩
  | _ => cases stands

/-- The texts of two dates in the default pattern are the same if and only if the dates agree down
to the second as they are written. The six numbers are read back from each text, and where the years
have four digits the texts are in the order of these numbers. -/
theorem convertDates_ordered {v w : Value} {t u : Moment} (first : v.moment? = some t)
    (second : w.moment? = some u) :
    ∃ r s : String,
      (v.convertDate defaultDatePattern = .ok (.str r) ∧
        v.convertDates defaultDatePattern = .ok (.str r)) ∧
      (w.convertDate defaultDatePattern = .ok (.str s) ∧
        w.convertDates defaultDatePattern = .ok (.str s)) ∧
      (r = s ↔ t.numbers = u.numbers) ∧
      (numbersIn r.toList = t.numbers ∧ numbersIn s.toList = u.numbers) ∧
      (1000 ≤ t.date.year → 1000 ≤ u.date.year → (r < s ↔ t.numbers < u.numbers)) := by
  refine ⟨_, _, convertDate_default first, convertDate_default second, ?_, ?_, fun early late => ?_⟩
  · rw [String.ofList_inj, Moment.stamp_eq_iff]
  · rw [String.toList_ofList, String.toList_ofList]
    exact ⟨t.numbersIn_stamp, u.numbersIn_stamp⟩
  · rw [String.lt_iff, String.toList_ofList, String.toList_ofList,
      Moment.stamp_lt_iff early late]

/-- A leap day is written before its evening, and the evening is read back without its fraction and
its offset. -/
theorem convertDates_ordered_evening :
    let day : Date := ⟨2024, 2, 29, by decide, by decide, by decide⟩
    let evening : Moment := ⟨day, 18, 30, 5, 250, some 120, by decide, by decide, by decide,
      by decide⟩
    ((date day).moment? = some day.midnight ∧ (moment evening).moment? = some evening) ∧
      ∃ r s : String, (date day).convertDates defaultDatePattern = .ok (.str r) ∧
        (moment evening).convertDates defaultDatePattern = .ok (.str s) ∧
        r ≠ s ∧ r < s ∧ numbersIn s.toList = [2024, 2, 29, 18, 30, 5] := by
  intro day evening
  have starts : (date day).moment? = some day.midnight := rfl
  have ends : (moment evening).moment? = some evening := rfl
  obtain ⟨r, s, ⟨-, written⟩, ⟨-, sent⟩, same, ⟨-, back⟩, order⟩ :=
    convertDates_ordered starts ends
  refine ⟨⟨starts, ends⟩, r, s, written, sent, fun equal => ?_, ?_, back⟩
  · exact absurd (same.mp equal) (by decide)
  · exact (order (by decide) (by decide)).mpr (by decide)

end Value

end DocumentSearch
