import Safeguard.Policy
import Safeguard.Proofs.BinaryRounding

/-!
# How long a retry waits

The delay before a retry is computed in binary64 and rounded to whole nanoseconds. However the
computation goes, also through infinity or what is no number, the delay is no longer than the
longest one that the policy allows. The argument is about the order of the format: a number below
the rounded longest delay has a value that is below it as well.

## Key results

- `Binary64.toNat_roundToWord_le`, `Binary64.toNat_roundToWord_mono`: rounding to whole numbers
- `Binary64.roundToWord_ofNat`: what is not rounded
- `RetryPolicy.capped_le`, `RetryPolicy.capped_mono`: the delay as a function of the computed number
- `RetryPolicy.delayFor_le`: no delay is too long
-/

namespace Safeguard

/-! ## Rounding to whole numbers -/

namespace Binary64

/-- Rounding is to the nearest whole number, halves up, and stops at the largest word. -/
private theorem toNat_roundToWord (m : Magnitude) : (signed false m).roundToWord.toNat =
    min ((2 * m.units + Magnitude.unitsInOne) / (2 * Magnitude.unitsInOne)) (2 ^ 64 - 1) := by
  rw [roundToWord, ← Magnitude.unitsInOne_eq, ← Magnitude.two_mul_unitsInOne,
    UInt64.toNat_ofNat_of_lt']
  exact Nat.lt_of_le_of_lt (Nat.min_le_right _ _) (by decide)

/-- A number of at most `n` is rounded to at most `n`. -/
theorem toNat_roundToWord_le {m : Magnitude} {n : Nat} (h : m.units ≤ n * Magnitude.unitsInOne) :
    (signed false m).roundToWord.toNat ≤ n := by
  have hpos := Magnitude.unitsInOne_pos
  rw [toNat_roundToWord]
  generalize Magnitude.unitsInOne = one at *
  have hn : n * (2 * one) = 2 * (n * one) := Nat.mul_left_comm n 2 one
  -- Half a unit more does not reach the next whole number.
  have hrounded : (2 * m.units + one) / (2 * one) ≤ n := by
    apply Nat.le_of_lt_succ
    rw [Nat.div_lt_iff_lt_mul (by omega)]
    calc 2 * m.units + one < 2 * (n * one) + 2 * one := by omega
      _ = (n + 1) * (2 * one) := by rw [Nat.add_mul, hn, Nat.one_mul]
  exact Nat.le_trans (Nat.min_le_left _ _) hrounded

/-- Rounding to whole numbers keeps the order. -/
theorem toNat_roundToWord_mono {a b : Magnitude} (h : a.units ≤ b.units) :
    (signed false a).roundToWord.toNat ≤ (signed false b).roundToWord.toNat := by
  rw [toNat_roundToWord, toNat_roundToWord]
  have hrounded : (2 * a.units + Magnitude.unitsInOne) / (2 * Magnitude.unitsInOne) ≤
      (2 * b.units + Magnitude.unitsInOne) / (2 * Magnitude.unitsInOne) :=
    Nat.div_le_div_right (by omega)
  exact Nat.le_min.2 ⟨Nat.le_trans (Nat.min_le_left _ _) hrounded, Nat.min_le_right _ _⟩

/-- A whole number is rounded to itself. -/
theorem toNat_roundToWord_of_units {m : Magnitude} {v : Nat}
    (h : m.units = v * Magnitude.unitsInOne) (hv : v < 2 ^ 64) :
    (signed false m).roundToWord.toNat = v := by
  have hpos := Magnitude.unitsInOne_pos
  rw [toNat_roundToWord, h]
  generalize Magnitude.unitsInOne = one at *
  -- Half a unit is less than a whole one, so the division gives the number back.
  have hvalue : 2 * (v * one) + one = one + 2 * one * v := by
    rw [Nat.mul_assoc, Nat.mul_comm one v]
    omega
  rw [hvalue, Nat.add_mul_div_left _ _ (by omega), Nat.div_eq_of_lt (by omega), Nat.zero_add]
  omega

/-- A word of at most `2^53` is not rounded, so it is read back as it was. -/
theorem roundToWord_ofNat {n : UInt64} (h : n.toNat ≤ 2 ^ 53) :
    (ofNat n.toNat).roundToWord = n := by
  rw [ofNat_eq]
  exact UInt64.toNat_inj.1
    (toNat_roundToWord_of_units (Magnitude.units_ofNat_of_le h) n.toNat_lt)

end Binary64

/-! ## Delays and timers -/

@[simp] theorem Duration.nanos_ofNanos (n : UInt64) : (Duration.ofNanos n).nanos = n.toNat :=
  rfl

theorem Duration.sleepMillis_zero : Duration.zero.sleepMillis = 0 := by
  decide

namespace RetryPolicy

variable (p : RetryPolicy)

/-- The delay that the grown initial delay stands for: the longest one if that is reached, or if the
computation has left the numbers. -/
def capped (grown : Binary64) : Duration :=
  if !grown.isFinite || (Binary64.ofNat p.maxDelay.nanos).le grown then p.maxDelay
  else .ofNanos grown.roundToWord

/-- The power of the multiplier before a retry. -/
def growth (retry : UInt32) : Binary64 :=
  p.multiplier.pow (min (retry.toNat - 1) maxExponent)

/-- The delay is that of the initial one times the power of the multiplier. -/
theorem delayFor_eq (retry : UInt32) :
    p.delayFor retry = p.capped (.ofNat p.initialDelay.nanos * p.growth retry) :=
  rfl

/-- A number that is not negative is cut at the longest delay, infinity included. -/
theorem capped_signed (m : Magnitude) : p.capped (.signed false m) =
    if (Magnitude.ofNat p.maxDelay.nanos).units ≤ m.units then p.maxDelay
    else .ofNanos (Binary64.signed false m).roundToWord := by
  have hinfinite : m.isInfinite = true → (Magnitude.ofNat p.maxDelay.nanos).units ≤ m.units :=
    fun h => Nat.le_trans (Magnitude.units_le_infinity _) (Magnitude.isInfinite_iff.1 h)
  unfold capped
  rw [Binary64.ofNat_eq]
  congr 1
  rw [Bool.or_eq_true, Binary64.le_signed, Binary64.isFinite, Bool.not_not,
    or_iff_right_of_imp hinfinite]

/-- Whatever was computed, the delay is at most the longest one. -/
theorem capped_le (grown : Binary64) : p.capped grown ≤ p.maxDelay := by
  -- What is no number is cut, and of the numbers only the positive ones are rounded.
  cases grown with
  | nan => exact Nat.le_refl _
  | signed negative m =>
    cases negative with
    | true =>
      unfold capped
      split
      · exact Nat.le_refl _
      · exact Nat.zero_le _
    | false =>
      rw [capped_signed]
      split
      · exact Nat.le_refl _
      · next hbelow =>
        -- Below the rounded longest delay means no longer than it in value.
        have hunits := Nat.le_of_not_le fun hle => hbelow (Magnitude.units_ofNat_le hle)
        rw [Duration.le_def, Duration.nanos_ofNanos]
        exact Binary64.toNat_roundToWord_le hunits

/-- The delay keeps the order of numbers that are not negative. -/
theorem capped_mono {a b : Magnitude} (h : a.units ≤ b.units) :
    p.capped (.signed false a) ≤ p.capped (.signed false b) := by
  rw [capped_signed p b]
  -- If the larger number is cut there is nothing to show, else neither of them is.
  split
  · exact capped_le p _
  · next hbelow =>
    rw [capped_signed, if_neg fun hle => hbelow (Nat.le_trans hle h), Duration.le_def,
      Duration.nanos_ofNanos, Duration.nanos_ofNanos]
    exact Binary64.toNat_roundToWord_mono h

/-- No delay is longer than the longest delay of its policy, whether or not the policy is in order,
and whatever becomes of the computation. -/
theorem delayFor_le (retry : UInt32) : p.delayFor retry ≤ p.maxDelay :=
  p.capped_le _

end RetryPolicy

end Safeguard
