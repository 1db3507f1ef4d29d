import Safeguard.Proofs.BackoffGrowth
import Safeguard.Proofs.RetryCorrect

/-!
# Delays by formula

With whole numbers the rounded computation of a delay is exact as long as it matters: what has no
more than 53 digits is not rounded, and what has more is beyond the longest delay, which is then
taken. The formula, which cuts once, agrees with a loop that cuts from one retry to the next.

## Key results

- `RetryPolicy.nanos_capped`: a number that matches a whole one is cut exactly
- `RetryPolicy.loopDelay_eq`: cutting in every round and cutting once
- `RetryPolicy.delayFor_eq_loopDelay`: the delay as a whole number
-/

namespace Safeguard

namespace Binary64

/-- A whole number that is at least one as a number is at least one as a value. -/
private theorem IsWhole.one_le {x : Binary64} {v : Nat} (h : x.IsWhole v)
    (hx : (ofNat 1).le x = true) :
    1 ≤ v := by
  obtain ⟨a, rfl, ha⟩ := h
  obtain ⟨b, hb, hone⟩ := one_le_iff.1 hx
  cases hb
  refine Nat.pos_of_ne_zero fun hzero => ?_
  rw [ha, hzero, Nat.zero_mul] at hone
  exact Nat.not_lt_of_le hone Magnitude.unitsInOne_pos

end Binary64

namespace RetryPolicy

variable {p : RetryPolicy}

/-! ## Exact delays -/

/-- A number that matches a whole one is cut as that is, when the longest delay is of the format. -/
theorem nanos_capped {x : Binary64} {v : Nat} (h : x.Matches v) (hmax : p.maxDelay.nanos ≤ 2 ^ 53) :
    (p.capped x).nanos = min v p.maxDelay.nanos := by
  obtain ⟨-, a, rfl, hexact, hlarge⟩ := h
  have hpos := Magnitude.unitsInOne_pos
  rw [capped_signed, Magnitude.units_ofNat_of_le hmax]
  split
  · next hreached =>
    -- Either the number is exact, or it is beyond all that 53 digits can express.
    rcases Nat.lt_or_ge v (2 ^ 53) with hlt | hge
    · rw [hexact hlt] at hreached
      exact (Nat.min_eq_right (Nat.le_of_mul_le_mul_right hreached hpos)).symm
    · exact (Nat.min_eq_right (Nat.le_trans hmax hge)).symm
  · next hbelow =>
    have hlt : v < 2 ^ 53 := by
      refine Nat.lt_of_not_le fun hge => hbelow ?_
      exact Nat.le_trans (Nat.mul_le_mul_right _ hmax) (hlarge hge)
    rw [hexact hlt] at hbelow
    have hv : v ≤ p.maxDelay.nanos := by
      refine Nat.le_of_not_le fun hle => hbelow (Nat.mul_le_mul_right _ hle)
    rw [Duration.nanos_ofNanos, Binary64.toNat_roundToWord_of_units (hexact hlt) (by omega),
      Nat.min_eq_left hv]

/-- The delay, in nanoseconds, of a loop that begins with the initial delay and multiplies it from
one retry to the next, but never beyond the longest one. -/
def loopDelay (initial max factor : Nat) : Nat → Nat
  | 0 => initial
  | k + 1 => min (loopDelay initial max factor k * factor) max

/-- Cutting in every round comes to cutting once. -/
theorem loopDelay_eq {initial max factor : Nat} (hinitial : initial ≤ max) (hfactor : 1 ≤ factor)
    (k : Nat) : loopDelay initial max factor k = min (initial * factor ^ k) max := by
  induction k with
  | zero => rw [loopDelay, Nat.pow_zero, Nat.mul_one, Nat.min_eq_left hinitial]
  | succ k ih =>
    rw [loopDelay, ih, Nat.pow_succ, ← Nat.mul_assoc]
    -- Once the longest delay is reached, one more factor does not lead below it.
    rcases Nat.le_total (initial * factor ^ k) max with hle | hge
    · rw [Nat.min_eq_left hle]
    · have hgrown : max ≤ initial * factor ^ k * factor :=
        Nat.le_trans hge (Nat.le_mul_of_pos_right _ hfactor)
      rw [Nat.min_eq_right hge, Nat.min_eq_right hgrown,
        Nat.min_eq_right (Nat.le_mul_of_pos_right _ hfactor)]

/-- A large exponent may be replaced by a smaller one that is large enough. -/
private theorem min_mul_pow_min {initial max factor cap : Nat} (hinitial : 1 ≤ initial)
    (hfactor : 1 ≤ factor) (hmax : max ≤ 2 ^ 53) (hcap : 53 ≤ cap) (k : Nat) :
    min (initial * factor ^ min k cap) max = min (initial * factor ^ k) max := by
  rcases Nat.le_total k cap with hle | hge
  · rw [Nat.min_eq_left hle]
  -- A factor of one makes no difference, and any other one is at least two.
  · rcases Nat.eq_or_lt_of_le hfactor with rfl | hlt
    · rw [Nat.one_pow, Nat.one_pow]
    · -- Fifty-three factors of two or more reach the longest delay.
      have hreached : ∀ n, 53 ≤ n → max ≤ initial * factor ^ n := by
        intro n hn
        calc max ≤ 2 ^ 53 := hmax
          _ ≤ 2 ^ n := Nat.pow_le_pow_right Nat.two_pos hn
          _ ≤ factor ^ n := Nat.pow_le_pow_left hlt n
          _ ≤ initial * factor ^ n := Nat.le_mul_of_pos_left _ hinitial
      rw [Nat.min_eq_right hge, Nat.min_eq_right (hreached cap hcap),
        Nat.min_eq_right (hreached k (Nat.le_trans hcap hge))]

/-- With a whole multiplier, and a longest delay of at most `2^53` ns, the delay is what the formula
says in whole numbers, and what the loop comes to that multiplies and cuts from one retry to the
next. -/
theorem delayFor_eq_loopDelay {m : Nat} (hvalid : p.validate = .ok ())
    (hwhole : p.multiplier.IsWhole m) (hinitial : 1 ≤ p.initialDelay.nanos)
    (hmax : p.maxDelay.nanos ≤ 2 ^ 53) (k : UInt32) :
    (p.delayFor k).nanos = min (p.initialDelay.nanos * m ^ (k.toNat - 1)) p.maxDelay.nanos ∧
      (p.delayFor k).nanos =
        loopDelay p.initialDelay.nanos p.maxDelay.nanos m (k.toNat - 1) := by
  have hm := hwhole.one_le (multiplier_of_validate hvalid).1
  -- The computed number stands for the whole one that the formula has before it is cut.
  have hgrown := (Binary64.matches_ofNat hinitial).mul ((hwhole.matches hm).pow
    (min (k.toNat - 1) maxExponent))
  have hformula : (p.delayFor k).nanos =
      min (p.initialDelay.nanos * m ^ (k.toNat - 1)) p.maxDelay.nanos := by
    rw [delayFor_eq, growth, nanos_capped hgrown hmax,
      min_mul_pow_min hinitial hm hmax (by decide)]
  exact ⟨hformula, hformula.trans (loopDelay_eq (initialDelay_le_of_validate hvalid) hm _).symm⟩

/-- Three nanoseconds that triple are `3^33` before retry 33, and one later they would be more than
`2^53`. -/
theorem delayFor_eq_loopDelay_tripling :
    let p : RetryPolicy := ⟨40, .ofNanos 3, .ofNanos 9007199254740992, .ofNat 3, none⟩
    p.validate = .ok () ∧ p.multiplier.IsWhole 3 ∧ 1 ≤ p.initialDelay.nanos ∧
      p.maxDelay.nanos ≤ 2 ^ 53 ∧ (p.delayFor 33).nanos = 3 ^ 33 ∧
      (p.delayFor 34).nanos = loopDelay 3 (2 ^ 53) 3 33 ∧ loopDelay 3 (2 ^ 53) 3 33 = 2 ^ 53 := by
  intro p
  have hvalid : p.validate = .ok () := by decide +kernel
  -- Three is a number of the format, so it is not rounded.
  have hwhole : p.multiplier.IsWhole 3 :=
    ⟨.ofNat 3, Binary64.ofNat_eq 3, Magnitude.units_ofNat_of_le (by decide)⟩
  have hinitial : 1 ≤ p.initialDelay.nanos := by decide
  have hmax : p.maxDelay.nanos ≤ 2 ^ 53 := by decide
  have hdelay := delayFor_eq_loopDelay hvalid hwhole hinitial hmax
  exact ⟨hvalid, hwhole, hinitial, hmax, (hdelay 33).1.trans (by decide), (hdelay 34).2,
    by decide +kernel⟩

end RetryPolicy

end Safeguard
