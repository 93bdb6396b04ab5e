import DocumentSearch.Page
import Mathlib.Data.Rat.Floor
import Mathlib.Tactic.Linarith

/-!
# The number of pages

A quotient below `2^53` is rounded once, to a floating-point number, and then up to a whole one. To
round it to a floating-point number takes it across no whole number: it keeps 53 bits, and the exact
quotient of such a number by `d` is at least `1/d` away from any whole number that it is not. So the
number of pages comes out as if it were computed exactly.
-/
namespace DocumentSearch

variable {n d m : ℕ}

theorem divRound_le (pos : 0 < d) (h : n ≤ m * d) : divRound n d ≤ m := by
  have split := Nat.div_add_mod' n d
  have low : n / d ≤ m := Nat.div_le_of_le_mul (by rwa [Nat.mul_comm])
  have up : 0 < n % d → n / d < m := fun rest => by
    have below : n / d * d < m * d := by omega
    exact Nat.lt_of_mul_lt_mul_right below
  unfold divRound
  split
  · exact low
  · split
    · exact up (by omega)
    · have := up (by omega)
      omega

theorem le_divRound (pos : 0 < d) : 2 * n ≤ (2 * divRound n d + 1) * d := by
  have split := Nat.div_add_mod' n d
  have rest := Nat.mod_lt n pos
  have grows : ∀ m, n / d ≤ m → (2 * (n / d) + 1) * d ≤ (2 * m + 1) * d := fun m h =>
    Nat.mul_le_mul_right d (by omega)
  have half : (2 * (n / d) + 1) * d = 2 * (n / d * d) + d := by ring
  unfold divRound
  split
  · omega
  · split
    · have : (2 * (n / d + 1) + 1) * d = 2 * (n / d * d) + 3 * d := by ring
      omega
    · have := grows (n / d + n / d % 2) (by omega)
      omega

theorem floorLog_nonneg (pos : 0 < d) (h : d ≤ n) : 0 ≤ floorLog 2 Nat.log2 n d := by
  have logs : Nat.log2 d ≤ Nat.log2 n :=
    (Nat.le_log2 (by omega)).mpr ((Nat.log2_self_le (by omega)).trans h)
  unfold floorLog
  dsimp only
  split
  · omega
  · rename_i above
    by_contra negative
    have same : (Nat.log2 n : ℤ) - Nat.log2 d = 0 := by omega
    rw [same] at above
    exact above (by simpa [powerAtMost] using h)

theorem floorLog_le (nonzero : n ≠ 0) (h : 0 ≤ floorLog 2 Nat.log2 n d) :
    d * 2 ^ (floorLog 2 Nat.log2 n d).toNat ≤ n := by
  unfold floorLog at h ⊢
  dsimp only at h ⊢
  split at h
  · rename_i fits
    rw [if_pos fits]
    rw [powerAtMost, if_pos h] at fits
    exact of_decide_eq_true fits
  · rename_i above
    rw [if_neg above]
    have exponent : Nat.log2 d + 1 + ((Nat.log2 n : ℤ) - Nat.log2 d - 1).toNat = Nat.log2 n := by
      omega
    calc d * 2 ^ ((Nat.log2 n : ℤ) - Nat.log2 d - 1).toNat
        ≤ 2 ^ (Nat.log2 d + 1) * 2 ^ ((Nat.log2 n : ℤ) - Nat.log2 d - 1).toNat :=
          Nat.mul_le_mul_right _ Nat.lt_log2_self.le
      _ = 2 ^ Nat.log2 n := by rw [← pow_add, exponent]
      _ ≤ n := Nat.log2_self_le nonzero

namespace Binary64

theorem magnitude_eq (m : ℕ) (q : ℤ) : magnitude m q = m * (2 : ℚ) ^ q := by
  by_cases h : 0 ≤ q
  · lift q to ℕ using h
    simp [magnitude, fraction]
  · obtain ⟨k, rfl⟩ : ∃ k : ℕ, q = -k := ⟨(-q).toNat, by omega⟩
    simp only [magnitude, fraction, if_neg h]
    simp [div_eq_mul_inv]

/-- Rounded to a multiple of `1 / 2^k`. A significand that takes one bit more is given with the next
exponent. -/
theorem ofFraction_eq {k : ℕ} (nonzero : n ≠ 0)
    (shift : max (-1074) (floorLog 2 Nat.log2 n d - 52) = -(k : ℤ)) :
    (ofFraction false n d).extended? =
      some (.finite ((divRound (n * 2 ^ k) d : ℚ) * 2 ^ (-(k : ℤ)))) := by
  have rounded : (if 0 ≤ -(k : ℤ) then divRound n (d * Nat.pow 2 (-(k : ℤ)).toNat)
      else divRound (n * Nat.pow 2 (- -(k : ℤ)).toNat) d) = divRound (n * 2 ^ k) d := by
    cases k with
    | zero => simp
    | succ k =>
      rw [if_neg (by omega), neg_neg]
      rfl
  unfold ofFraction
  rw [if_neg nonzero]
  dsimp only
  rw [shift, rounded]
  by_cases carry : divRound (n * 2 ^ k) d = 2 ^ 53
  · have moved : (if divRound (n * 2 ^ k) d = Nat.pow 2 53 then (Nat.pow 2 52, -(k : ℤ) + 1)
        else (divRound (n * 2 ^ k) d, -(k : ℤ))) = (2 ^ 52, -(k : ℤ) + 1) := if_pos carry
    rw [moved, if_neg (by omega)]
    simp only [extended?, magnitude_eq, carry]
    rw [zpow_add₀ (by norm_num), zpow_one]
    push_cast
    ring_nf
  · have stays : (if divRound (n * 2 ^ k) d = Nat.pow 2 53 then (Nat.pow 2 52, -(k : ℤ) + 1)
        else (divRound (n * 2 ^ k) d, -(k : ℤ))) = (divRound (n * 2 ^ k) d, -(k : ℤ)) :=
      if_neg carry
    rw [stays, if_neg (by omega)]
    simp only [extended?, magnitude_eq]

/-- A quotient of natural numbers below `2^53` is rounded to a number that is on the same side of
every whole number. -/
theorem ofFraction_spec (pos : 0 < d) (nonzero : n ≠ 0) (small : n < 2 ^ 53) :
    ∃ y : ℚ, (ofFraction false n d).extended? = some (.finite y) ∧
      (∀ bound : ℕ, n ≤ bound * d → y ≤ bound) ∧
      ∀ bound : ℕ, 0 < bound → bound * d < n → bound < y := by
  -- The exponent is not above zero, so the quotient is rounded to a multiple of `1 / 2^k`.
  have exponent : floorLog 2 Nat.log2 n d ≤ 52 := by
    by_contra above
    have fits := floorLog_le (d := d) nonzero (by omega)
    have large : 2 ^ 53 ≤ 2 ^ (floorLog 2 Nat.log2 n d).toNat :=
      Nat.pow_le_pow_right (by decide) (by omega)
    have : 2 ^ (floorLog 2 Nat.log2 n d).toNat ≤ d * 2 ^ (floorLog 2 Nat.log2 n d).toNat :=
      Nat.le_mul_of_pos_left _ pos
    omega
  obtain ⟨k, shift⟩ : ∃ k : ℕ, max (-1074) (floorLog 2 Nat.log2 n d - 52) = -(k : ℤ) :=
    ⟨(-(max (-1074) (floorLog 2 Nat.log2 n d - 52))).toNat, by omega⟩
  refine ⟨_, ofFraction_eq nonzero shift, fun bound above => ?_, fun bound positive below => ?_⟩
  · have rounded : divRound (n * 2 ^ k) d ≤ bound * 2 ^ k := by
      refine divRound_le pos ?_
      calc n * 2 ^ k ≤ bound * d * 2 ^ k := Nat.mul_le_mul_right _ above
        _ = bound * 2 ^ k * d := by ring
    rw [zpow_neg, zpow_natCast, ← div_eq_mul_inv, div_le_iff₀ (by positivity)]
    exact_mod_cast rounded
  · -- The exponent is that of the quotient, so the error is below the distance `1 / d`.
    have magnitude : d ≤ n := by nlinarith
    have exponent := floorLog_nonneg pos magnitude
    have width : k + 1 + (floorLog 2 Nat.log2 n d).toNat = 53 := by omega
    have narrow : d < 2 ^ (k + 1) := by
      have fits := floorLog_le (d := d) nonzero exponent
      refine Nat.lt_of_mul_lt_mul_right (a := 2 ^ (floorLog 2 Nat.log2 n d).toNat) ?_
      rw [← pow_add, width]
      omega
    have rounded : bound * 2 ^ k < divRound (n * 2 ^ k) d := by
      by_contra short
      have error := le_divRound (n := n * 2 ^ k) pos
      have apart : (bound * d + 1) * 2 ^ k ≤ n * 2 ^ k := Nat.mul_le_mul_right _ below
      have reach : (2 * divRound (n * 2 ^ k) d + 1) * d ≤ (2 * (bound * 2 ^ k) + 1) * d :=
        Nat.mul_le_mul_right _ (by omega)
      have : 2 * ((bound * d + 1) * 2 ^ k) = (2 * (bound * 2 ^ k)) * d + 2 ^ (k + 1) := by ring
      have : (2 * (bound * 2 ^ k) + 1) * d = (2 * (bound * 2 ^ k)) * d + d := by ring
      omega
    rw [zpow_neg, zpow_natCast, ← div_eq_mul_inv, lt_div_iff₀ (by positivity)]
    exact_mod_cast rounded

/-- Rounded up to a whole number that is at least 1, a quotient gives the same before and after it
is rounded to a floating-point number. -/
theorem ofRat_spec {r : ℚ} (nonneg : 0 ≤ r) (small : r.num < 2 ^ 53) :
    ∃ y : ℚ, (ofRat r).extended? = some (.finite y) ∧ max y.ceil 1 = max r.ceil 1 := by
  have sign : decide (r < 0) = false := decide_eq_false (not_lt.mpr nonneg)
  have num : (r.num.natAbs : ℤ) = r.num := Int.natAbs_of_nonneg (Rat.num_nonneg.mpr nonneg)
  have quotient : r = r.num.natAbs / r.den := by
    conv_lhs => rw [← Rat.num_div_den r]
    rw [← num, Int.natAbs_natCast, Int.cast_natCast]
  rw [ofRat, sign]
  by_cases zero : r.num.natAbs = 0
  · refine ⟨0, ?_, ?_⟩
    · rw [zero, ofFraction, if_pos rfl]
      simp [Binary64.zero, extended?, magnitude_eq]
    · rw [Rat.num_eq_zero.mp (Int.natAbs_eq_zero.mp zero)]
  · have pos : 0 < r.den := r.den_pos
    obtain ⟨y, rounded, upper, lower⟩ := ofFraction_spec pos zero (by omega)
    refine ⟨y, rounded, ?_⟩
    have den : (0 : ℚ) < r.den := by exact_mod_cast pos
    have rpos : 0 < r := by
      refine lt_of_le_of_ne nonneg fun eq => zero ?_
      rw [← eq]
      rfl
    -- The least whole number at or above the quotient bounds both numbers, and the one below it,
    -- if it is not zero, is below both.
    obtain ⟨bound, least⟩ : ∃ bound : ℕ, r.ceil = bound + 1 := by
      have : 0 < r.ceil := Rat.lt_ceil_iff.mpr (by exact_mod_cast rpos)
      exact ⟨(r.ceil - 1).toNat, by omega⟩
    have below : y.ceil ≤ bound + 1 := by
      refine Rat.ceil_le_iff.mpr ?_
      have above : r ≤ ((bound + 1 : ℕ) : ℚ) := by
        have := Rat.le_ceil (x := r)
        rw [least] at this
        exact_mod_cast this
      rw [quotient, div_le_iff₀ den] at above
      exact_mod_cast upper (bound + 1) (by exact_mod_cast above)
    rw [least]
    by_cases one : bound = 0
    · omega
    · have above : (bound : ℤ) < y.ceil := by
        refine Rat.lt_ceil_iff.mpr ?_
        have under : ((bound : ℤ) : ℚ) < r := Rat.lt_ceil_iff.mp (by omega)
        rw [quotient, lt_div_iff₀ den, Int.cast_natCast] at under
        exact_mod_cast lower bound (by omega) (by exact_mod_cast under)
      omega

end Binary64

namespace Page

variable {total perPage : ℕ}

/-- The least number of pages of a length that hold all documents; there is always one. -/
def countOf (total perPage : ℕ) : ℤ := max ((total : ℚ) / perPage).ceil 1

theorem lt_countOf {page : ℤ} (pos : 0 < perPage) (first : 1 ≤ page) :
    page < countOf total perPage ↔ page * perPage < total := by
  have length : (0 : ℚ) < perPage := by exact_mod_cast pos
  have below : page < countOf total perPage ↔ page < ((total : ℚ) / perPage).ceil := by
    unfold countOf
    omega
  rw [below, Rat.lt_ceil_iff, lt_div_iff₀ length]
  exact_mod_cast Iff.rfl

/-- The number of pages that is computed with floating-point numbers is the exact one. -/
theorem lastPageOf_int (small : total < 2 ^ 53) (pos : 0 < perPage) :
    lastPageOf (.int total) (.int perPage) = .ok (countOf total perPage) := by
  have reduced : ((total : ℚ) / perPage).num ≤ total := by
    obtain ⟨c, num, den⟩ := Rat.exists_eq_mul_div_num_and_eq_mul_div_den (total : ℤ)
      (d := perPage) (by exact_mod_cast pos.ne')
    have : 0 ≤ (((total : ℤ) : ℚ) / ((perPage : ℤ) : ℚ)).num :=
      Rat.num_nonneg.mpr (by positivity)
    have : 0 < c := by
      by_contra h
      nlinarith [Nat.zero_le (((total : ℤ) : ℚ) / ((perPage : ℤ) : ℚ)).den]
    push_cast at *
    nlinarith
  obtain ⟨y, rounded, same⟩ := Binary64.ofRat_spec (r := (total : ℚ) / perPage) (by positivity)
    (by omega)
  have divided : Number.div (.int total) (.int perPage) =
      .ok (Binary64.ofRat ((total : ℚ) / perPage)) := by
    have exact : ((total : ℤ) : ℚ) / ((perPage : ℤ) : ℚ) = (total : ℚ) / perPage := by push_cast; rfl
    simp only [Number.div, Number.whole?, exact]
    cases found : Binary64.ofRat ((total : ℚ) / perPage) with
    | infinite negative =>
      rw [found] at rounded
      cases negative <;> cases rounded
    | finite negative m q => rfl
    | nan origin => rfl
  have ceiled : Number.ceil (Binary64.ofRat ((total : ℚ) / perPage)) = .ok y.ceil := by
    rw [Number.ceil, rounded]
  have counted : (Number.int 0).lt (.int perPage) = true := by simpa using pos
  rw [lastPageOf, if_pos counted, countOf, ← same]
  change (do
    let quotient ← Number.div (.int total) (.int perPage)
    return Max.max (← Number.ceil quotient) 1 : Except Error Int) = _
  rw [divided]
  change (do return Max.max (← Number.ceil _) 1 : Except Error Int) = _
  rw [ceiled]
  rfl

end Page

end DocumentSearch
