import Safeguard.Proofs.BinaryPower
import Safeguard.Proofs.RetryDelay

/-!
# Delays never shrink

From one retry to the next the power of the multiplier grows, and with an initial delay of at least
a nanosecond the product with it does. Such a product is a number or infinity, and it is cut and
rounded in a way that keeps the order. Without an initial delay the product is zero, or no number
once the power is infinite, and then the longest delay is what is left.

## Key results

- `Binary64.ofNat_zero_mul`: products with zero
- `RetryPolicy.growth_le_growth`: the powers of a policy that is in order
- `RetryPolicy.delayFor_of_initialDelay_eq_zero`: the delays without an initial one
- `RetryPolicy.delayFor_mono_of_initialDelay_pos`: the delays with an initial one
- `RetryPolicy.delays_never_shrink`: the longest delay, and the order of delays
-/

namespace Safeguard

namespace Binary64

/-- Of two numbers that can be compared, one that is not less is at least as great. -/
private theorem le_of_lt_eq_false {x y : Binary64} (hx : x.isFinite = true) (hy : y.isFinite = true)
    (h : x.lt y = false) : y.le x = true := by
  cases x with
  | nan => simp [isFinite] at hx
  | signed =>
    cases y with
    | nan => simp [isFinite] at hy
    | signed =>
      simp only [lt, le, place?, decide_eq_false_iff_not, decide_eq_true_eq] at h ⊢
      omega

/-- Zero times a number from one on is zero, but zero times infinity is no number. -/
theorem ofNat_zero_mul {x : Binary64} (hx : (ofNat 1).le x = true) :
    ofNat 0 * x = if x.isFinite then ofNat 0 else nan := by
  obtain ⟨a, rfl, ha⟩ := one_le_iff.1 hx
  have hzero : Magnitude.zero.isZero = true := rfl
  have hfinite : Magnitude.zero.isInfinite = false := rfl
  -- The product of the values is zero, which is of the format.
  have hproduct := Magnitude.nearest_units .zero Magnitude.unitsInOne_pos
  rw [Magnitude.units_zero, Nat.zero_mul] at hproduct
  rw [ofNat_eq, Magnitude.ofNat_zero]
  show mul _ _ = _
  dsimp only [mul]
  rw [hzero, hfinite, Magnitude.isZero_of_unitsInOne_le ha, Magnitude.units_zero, Nat.zero_mul,
    ← Magnitude.unitsInOne_eq, hproduct]
  -- Only infinity has a product with zero that is no number.
  cases hinfinite : a.isInfinite with
  | true => simp [isFinite, hinfinite]
  | false => simp [isFinite, hinfinite]

end Binary64

namespace RetryPolicy

variable {p : RetryPolicy}

/-- The multiplier of a policy that is in order is a finite number from one on. -/
theorem multiplier_of_validate (h : p.validate = .ok ()) :
    (Binary64.ofNat 1).le p.multiplier = true ∧ p.multiplier.isFinite = true := by
  -- The checks are gone through in their order; the one for the multiplier must have passed.
  unfold validate at h
  split at h
  · cases h
  · split at h
    · cases h
    · next hmultiplier =>
      simp only [Bool.or_eq_true, Bool.not_eq_true', not_or, Bool.not_eq_false,
        Bool.not_eq_true] at hmultiplier
      obtain ⟨hfinite, hlt⟩ := hmultiplier
      have hone : (Binary64.ofNat 1).isFinite = true := Binary64.isFinite_ofNat_two_pow 0
      exact ⟨Binary64.le_of_lt_eq_false hfinite hone hlt, hfinite⟩

/-- In a policy that is in order the first delay is not longer than the longest one. -/
theorem initialDelay_le_of_validate (h : p.validate = .ok ()) : p.initialDelay ≤ p.maxDelay := by
  unfold validate at h
  split at h
  · cases h
  · split at h
    · cases h
    · split at h
      · cases h
      · next hcrossed => exact Nat.le_of_not_lt hcrossed

/-- The powers of a policy that is in order are numbers from one on, or infinite. -/
theorem one_le_growth (h : p.validate = .ok ()) (retry : UInt32) :
    (Binary64.ofNat 1).le (p.growth retry) = true :=
  Binary64.one_le_pow (multiplier_of_validate h).1 _

/-- They do not shrink from one retry to a later one. -/
theorem growth_le_growth (h : p.validate = .ok ()) {j k : UInt32} (hjk : j ≤ k) :
    (p.growth j).le (p.growth k) = true := by
  have hjk : j.toNat ≤ k.toNat := hjk
  exact Binary64.pow_le_pow_right (multiplier_of_validate h).1 (by omega)

/-- No delay is cut to no delay. -/
private theorem capped_ofNat_zero : p.capped (.ofNat 0) = .zero := by
  rw [Binary64.ofNat_eq, capped_signed, Magnitude.ofNat_zero]
  split
  · next hnone =>
    -- Only a longest delay of nothing is rounded to nothing.
    refine Duration.ext (Nat.eq_zero_of_not_pos fun hpos => ?_)
    have hone := Nat.le_trans (Magnitude.unitsInOne_le_units_ofNat hpos) hnone
    exact Nat.not_lt_of_le hone Magnitude.unitsInOne_pos
  · apply Duration.ext
    rw [Duration.nanos_ofNanos]
    exact Nat.eq_zero_of_le_zero (Binary64.toNat_roundToWord_le (Nat.zero_le _))

/-- Without an initial delay there is none, until the power is infinite. -/
theorem delayFor_of_initialDelay_eq_zero (h : p.validate = .ok ()) (hzero : p.initialDelay = .zero)
    (retry : UInt32) :
    p.delayFor retry = if (p.growth retry).isFinite then .zero else p.maxDelay := by
  have hnanos : p.initialDelay.nanos = 0 := by rw [hzero]; rfl
  rw [delayFor_eq, hnanos, Binary64.ofNat_zero_mul (one_le_growth h retry)]
  split
  · exact capped_ofNat_zero
  · rfl

/-- With an initial delay the computed number grows from one retry to the next. -/
theorem delayFor_mono_of_initialDelay_pos (h : p.validate = .ok ())
    (hpos : 0 < p.initialDelay.nanos) {j k : UInt32} (hjk : j ≤ k) :
    p.delayFor j ≤ p.delayFor k := by
  -- Both products are numbers from one on, as the initial delay and the powers are.
  have hone := Binary64.ofNat_le_ofNat (m := 1) hpos
  have hgrown := Binary64.mul_le_mul hone (one_le_growth h j) (Binary64.le_refl hone)
    (growth_le_growth h hjk)
  have hfirst := Binary64.one_le_mul hone (one_le_growth h j)
  rw [delayFor_eq, delayFor_eq]
  obtain ⟨b, hb, -⟩ := Binary64.one_le_iff.1 (Binary64.le_trans hfirst hgrown)
  obtain ⟨a, ha, -⟩ := Binary64.one_le_iff.1 hfirst
  rw [ha, hb] at hgrown ⊢
  exact p.capped_mono (Binary64.le_signed.1 hgrown)

/-- No delay is longer than the longest one, whatever the policy, and the delays of a policy that is
in order never shrink. -/
theorem delays_never_shrink :
    (∀ (p : RetryPolicy) (k : UInt32), p.delayFor k ≤ p.maxDelay) ∧
      ∀ p : RetryPolicy, p.validate = .ok () → ∀ j k : UInt32, j ≤ k →
        p.delayFor j ≤ p.delayFor k := by
  refine ⟨delayFor_le, fun p h j k hjk => ?_⟩
  -- Without an initial delay the products are no numbers once the power is infinite, so the order
  -- of the products says nothing, and the delays are known otherwise.
  rcases Nat.eq_zero_or_pos p.initialDelay.nanos with hnanos | hpos
  · have hzero : p.initialDelay = .zero := Duration.ext hnanos
    rw [delayFor_of_initialDelay_eq_zero h hzero j, delayFor_of_initialDelay_eq_zero h hzero k]
    by_cases hfinite : (p.growth k).isFinite = true
    · -- A power that is finite comes after finite ones only.
      have hearlier := Binary64.isFinite_of_le (one_le_growth h j) (growth_le_growth h hjk) hfinite
      rw [if_pos hfinite, if_pos hearlier]
      exact Nat.le_refl _
    · rw [if_neg hfinite]
      split
      · exact Nat.zero_le _
      · exact Nat.le_refl _
  · exact delayFor_mono_of_initialDelay_pos h hpos hjk

/-- Between the longest word of nanoseconds and a longest delay beyond it, the delay stays at the
word before it becomes the longest one. -/
theorem delays_never_shrink_saturated :
    let p := { RetryPolicy.standard with maxDelay := .ofSeconds 40000000000 }
    p.validate = .ok () ∧ (39 : UInt32) ≤ 4294967295 ∧ (p.delayFor 39).nanos = 2 ^ 64 - 1 ∧
      p.delayFor 39 ≤ p.delayFor 4294967295 ∧ p.delayFor 4294967295 ≤ p.maxDelay := by
  intro p
  have hvalid : p.validate = .ok () := by decide +kernel
  have hlater : (39 : UInt32) ≤ 4294967295 := by decide
  exact ⟨hvalid, hlater, by decide +kernel, delays_never_shrink.2 p hvalid 39 4294967295 hlater,
    delays_never_shrink.1 p 4294967295⟩

end RetryPolicy

end Safeguard
