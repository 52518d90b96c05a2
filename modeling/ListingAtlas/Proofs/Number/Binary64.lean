import Mathlib.Algebra.Order.Field.Rat
import Mathlib.Algebra.Order.Field.Power
import Mathlib.Tactic.Positivity
import ListingAtlas.Number.Binary64

/-!
Numbers of 64 bits beside whole numbers: their comparisons are those of the rational numbers that they
stand for.
-/

namespace ListingAtlas.Number

/-- The magnitude of a finite number. -/
def magnitude (significand : Nat) (exponent : Int) : ℚ :=
  significand * 2 ^ exponent

namespace Binary64

/-- Whether a time of so many seconds is over after some whole ones. One that is no number is over at
once. -/
def PassedAt (seconds : Binary64) (whole : Nat) : Prop :=
  match seconds with
  | .finite negative significand exponent =>
      (if negative then -magnitude significand exponent else magnitude significand exponent) ≤ whole
  | .infinite negative => negative = true
  | .notANumber => True

/-- Whether some whole seconds are within a limit of so many. None are within a limit of no time or
less, and nothing that takes any time is within one that is no number. -/
def Allows (seconds : Binary64) (whole : Nat) : Prop :=
  match seconds with
  | .finite negative significand exponent =>
      negative = false ∧ 0 < magnitude significand exponent ∧
        (whole : ℚ) ≤ magnitude significand exponent
  | .infinite negative => negative = false
  | .notANumber => whole = 0

end Binary64

/-! ### Magnitudes as ratios -/

section

variable (significand : Nat) (exponent : Int)

theorem denominator_pos : 0 < (ratioOf significand exponent).2 := by
  unfold ratioOf
  split
  · exact Nat.one_pos
  · exact Nat.two_pow_pos _

theorem magnitude_eq : magnitude significand exponent * (ratioOf significand exponent).2 =
    (ratioOf significand exponent).1 := by
  unfold magnitude ratioOf twoTo
  split
  · rename_i nonnegative
    obtain ⟨count, rfl⟩ := Int.eq_ofNat_of_zero_le nonnegative
    simp
  · rename_i negative
    obtain ⟨count, rfl⟩ : ∃ count : Nat, exponent = -count := ⟨(-exponent).toNat, by omega⟩
    simp

theorem magnitude_nonneg : 0 ≤ magnitude significand exponent := by
  unfold magnitude
  positivity

theorem magnitude_pos_iff : 0 < magnitude significand exponent ↔ significand ≠ 0 := by
  unfold magnitude
  rw [mul_pos_iff_of_pos_right (by positivity), Nat.cast_pos, Nat.pos_iff_ne_zero]

theorem magnitude_lt_iff (whole : Nat) :
    magnitude significand exponent < whole ↔
      (ratioOf significand exponent).1 < whole * (ratioOf significand exponent).2 := by
  have positive : (0 : ℚ) < (ratioOf significand exponent).2 :=
    Nat.cast_pos.mpr (denominator_pos significand exponent)
  rw [← mul_lt_mul_iff_left₀ positive, magnitude_eq, ← Nat.cast_mul, Nat.cast_lt]

theorem magnitude_le_iff (whole : Nat) :
    magnitude significand exponent ≤ whole ↔
      (ratioOf significand exponent).1 ≤ whole * (ratioOf significand exponent).2 := by
  have positive : (0 : ℚ) < (ratioOf significand exponent).2 :=
    Nat.cast_pos.mpr (denominator_pos significand exponent)
  rw [← mul_le_mul_iff_left₀ positive, magnitude_eq, ← Nat.cast_mul, Nat.cast_le]

end

/-! ### Comparisons -/

namespace Binary64

theorem allows_iff (seconds : Binary64) (whole : Nat) :
    seconds.Allows whole ↔
      seconds.isNonpositive = false ∧ seconds.exceededBy whole = false := by
  cases seconds with
  | infinite negative => cases negative <;> simp [Allows, isNonpositive, exceededBy]
  | notANumber => simp [Allows, isNonpositive, exceededBy]
  | finite negative significand exponent =>
      cases negative with
      | true => simp [Allows, isNonpositive]
      | false =>
          simp only [Allows, isNonpositive, exceededBy, magnitude_pos_iff, Bool.false_or,
            beq_eq_false_iff_ne, true_and, Bool.false_eq_true, if_false, decide_eq_false_iff_not,
            ← magnitude_lt_iff, not_lt]

theorem passedAt_of_isNonpositive {seconds : Binary64} (passed : seconds.isNonpositive = true)
    (whole : Nat) : seconds.PassedAt whole := by
  cases seconds with
  | infinite negative => exact passed
  | notANumber => trivial
  | finite negative significand exponent =>
      cases negative with
      | true => exact (neg_nonpos.mpr (magnitude_nonneg _ _)).trans (Nat.cast_nonneg whole)
      | false =>
          obtain rfl : significand = 0 := by simpa [isNonpositive] using passed
          simp [PassedAt, magnitude]

/-- The least whole number that is not below it is the first at which a time is over. -/
theorem passedAt_iff (seconds : Binary64) (whole : Nat) :
    seconds.PassedAt whole ↔ ∃ due, seconds.ceiling? = some due ∧ due ≤ whole := by
  cases seconds with
  | infinite negative => cases negative <;> simp [PassedAt, ceiling?]
  | notANumber => simp [PassedAt, ceiling?]
  | finite negative significand exponent =>
      cases negative with
      | true =>
          have passed : PassedAt (.finite true significand exponent) whole :=
            passedAt_of_isNonpositive rfl whole
          simp [passed, ceiling?]
      | false =>
          have divisor := denominator_pos significand exponent
          simp only [PassedAt, ceiling?, Bool.false_eq_true, if_false, Option.some.injEq,
            exists_eq_left', magnitude_le_iff]
          rw [Nat.div_le_iff_le_mul_add_pred divisor, Nat.mul_comm]
          omega

end Binary64

end ListingAtlas.Number
