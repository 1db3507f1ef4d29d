import Safeguard.Proofs.BinaryRounding

/-!
# Powers by repeated squaring

Numbers from one on, with infinity, are closed under rounded multiplication, which keeps their
order. So does repeated squaring, and a power is no greater than the next one, although the two are
computed from different products. Each statement about powers follows the binary digits of the
exponent.

Two kinds of powers are known exactly: those of powers of two, and those of whole numbers for as
long as they have 53 digits. Beyond that the computed power may be rounded, but it stays beyond.

## Key results

- `mul_signed`, `mul_le_mul`: rounded products of numbers from one on
- `powFrom_value`: what products keep, powers keep
- `powFrom_le_powFrom_succ`: a power and the next one
- `pow_le_pow_left`, `pow_le_pow_right`: the order of powers
- `pow_ofNat_two_pow`: powers of powers of two
- `Matches.mul`, `Matches.pow`: products and powers of whole numbers
-/

namespace Safeguard

namespace Binary64

open Magnitude (unitsInOne)

/-! ## Numbers from one on -/

/-- The order is transitive; what is no number is in no order. -/
theorem le_trans {x y z : Binary64} (h : x.le y = true) (h' : y.le z = true) :
    x.le z = true := by
  unfold le at *
  grind

/-- Whole numbers keep their order when they are rounded. -/
theorem ofNat_le_ofNat {m n : Nat} (h : m ≤ n) : (ofNat m).le (ofNat n) = true := by
  rw [ofNat_eq, ofNat_eq, le_signed]
  exact Magnitude.units_ofNat_mono h

/-- One is a number from one on. -/
private theorem one_le_one : (ofNat 1).le (ofNat 1) = true :=
  ofNat_le_ofNat (Nat.le_refl 1)

/-- What is at least one is a positive number or infinity. -/
theorem one_le_iff {x : Binary64} :
    (ofNat 1).le x = true ↔ ∃ a, x = signed false a ∧ unitsInOne ≤ a.units := by
  cases x with
  | nan => simp [le, place?]
  | signed negative a =>
    cases negative with
    | false => simp [ofNat_eq, le_signed, Magnitude.units_ofNat_one]
    | true =>
      -- A negative number stands before zero, and one after it.
      have hpos := Magnitude.rank_pos_of_unitsInOne_le
        (Magnitude.unitsInOne_le_units_ofNat (Nat.le_refl 1))
      have hnot : (ofNat 1).le (signed true a) = false := by
        rw [ofNat_eq]
        simp only [le, place?, decide_eq_false_iff_not, Bool.false_eq_true, if_false, if_true]
        omega
      simp [hnot]

/-- A number from one on is in order with itself. -/
theorem le_refl {x : Binary64} (h : (ofNat 1).le x = true) : x.le x = true := by
  obtain ⟨a, rfl, -⟩ := one_le_iff.1 h
  exact le_signed.2 (Nat.le_refl _)

/-- Two numbers from one on, infinity included, are multiplied by rounding the product of their
values. -/
theorem mul_signed {a b : Magnitude} (ha : unitsInOne ≤ a.units) (hb : unitsInOne ≤ b.units) :
    signed false a * signed false b = signed false (.nearest (a.units * b.units) unitsInOne) := by
  -- Infinity is no case of its own: its value times at least one is rounded to infinity.
  have hinfinite : (a.isInfinite || b.isInfinite) = true →
      Magnitude.nearest (a.units * b.units) unitsInOne = .infinity := by
    intro h
    have hreached : Magnitude.infinity.units * unitsInOne ≤ a.units * b.units := by
      rcases Bool.or_eq_true_iff.1 h with h | h
      · exact Nat.mul_le_mul (Magnitude.isInfinite_iff.1 h) hb
      · rw [Nat.mul_comm]
        exact Nat.mul_le_mul ha (Magnitude.isInfinite_iff.1 h)
    exact Magnitude.units_inj (Nat.le_antisymm (Magnitude.units_le_infinity _)
      (Magnitude.le_units_nearest Magnitude.unitsInOne_pos hreached))
  show mul _ _ = _
  dsimp only [mul]
  rw [Magnitude.isZero_of_unitsInOne_le ha, Magnitude.isZero_of_unitsInOne_le hb,
    ← Magnitude.unitsInOne_eq]
  simp only [Bool.and_false, Bool.false_and, Bool.or_false, Bool.false_eq_true, if_false]
  split
  · next h =>
    rw [hinfinite h]
    rfl
  · rfl

/-- Products of numbers from one on keep their order. -/
theorem mul_le_mul {x x' y y' : Binary64} (hx : (ofNat 1).le x = true) (hy : (ofNat 1).le y = true)
    (hxx' : x.le x' = true) (hyy' : y.le y' = true) : (x * y).le (x' * y') = true := by
  -- All four numbers have values, so that products are rounded products of values.
  obtain ⟨a', rfl, ha'⟩ := one_le_iff.1 (le_trans hx hxx')
  obtain ⟨b', rfl, hb'⟩ := one_le_iff.1 (le_trans hy hyy')
  obtain ⟨a, rfl, ha⟩ := one_le_iff.1 hx
  obtain ⟨b, rfl, hb⟩ := one_le_iff.1 hy
  rw [le_signed] at hxx' hyy'
  rw [mul_signed ha hb, mul_signed ha' hb', le_signed]
  exact Magnitude.units_nearest_mono Magnitude.unitsInOne_pos (Nat.mul_le_mul hxx' hyy')

/-- One is neutral. -/
theorem one_mul {x : Binary64} (hx : (ofNat 1).le x = true) : ofNat 1 * x = x := by
  obtain ⟨a, rfl, ha⟩ := one_le_iff.1 hx
  have hone := Magnitude.unitsInOne_le_units_ofNat (Nat.le_refl 1)
  rw [ofNat_eq, mul_signed hone ha, Magnitude.units_ofNat_one, Nat.mul_comm,
    Magnitude.nearest_units a Magnitude.unitsInOne_pos]

/-- Products of numbers from one on are such numbers. -/
theorem one_le_mul {x y : Binary64} (hx : (ofNat 1).le x = true) (hy : (ofNat 1).le y = true) :
    (ofNat 1).le (x * y) = true := by
  have hmul := mul_le_mul one_le_one one_le_one hx hy
  rwa [one_mul one_le_one] at hmul

/-! ## Repeated squaring -/

/-- No factor is left. -/
theorem powFrom_zero (result square : Binary64) : powFrom result square 0 = result := by
  rw [powFrom]
  rfl

/-- One binary digit of the exponent, also where the loop stops. -/
theorem powFrom_eq (result square : Binary64) (n : Nat) : powFrom result square n =
    powFrom (if n % 2 = 1 then result * square else result) (square * square) (n / 2) := by
  rw [powFrom]
  split
  · next hlast => rw [hlast, powFrom_zero]
  · rfl

/-- A relation of numbers to values that products keep, repeated squaring keeps as well. -/
theorem powFrom_value {P : Binary64 → Nat → Prop}
    (hmul : ∀ {x y v w}, P x v → P y w → P (x * y) (v * w)) {r s : Binary64}
    {v w : Nat} (hr : P r v) (hs : P s w) (n : Nat) :
    P (powFrom r s n) (v * w ^ n) := by
  -- Induction on the exponent, which is halved, for all numbers that the loop may have reached.
  induction n using Nat.strong_induction_on generalizing r s v w with
  | _ n ih =>
    rcases Nat.eq_zero_or_pos n with rfl | hpos
    · rwa [powFrom_zero, Nat.pow_zero, Nat.mul_one]
    -- Halving the exponent squares the base.
    · have hsquare : (w * w) ^ (n / 2) = w ^ (2 * (n / 2)) := by rw [← Nat.pow_two, ← Nat.pow_mul]
      rw [powFrom_eq]
      by_cases hodd : n % 2 = 1
      · have hvalue : v * w ^ n = v * w * (w * w) ^ (n / 2) := by
          rw [hsquare, Nat.mul_assoc, ← Nat.pow_succ', Nat.succ_eq_add_one,
            show 2 * (n / 2) + 1 = n by omega]
        rw [if_pos hodd, hvalue]
        exact ih _ (by omega) (hmul hr hs) (hmul hs hs)
      · have hvalue : v * w ^ n = v * (w * w) ^ (n / 2) := by
          rw [hsquare, show 2 * (n / 2) = n by omega]
        rw [if_neg hodd, hvalue]
        exact ih _ (by omega) hr (hmul hs hs)

/-- Repeated squaring does not leave the numbers from one on. -/
private theorem one_le_powFrom {r s : Binary64} (hr : (ofNat 1).le r = true)
    (hs : (ofNat 1).le s = true) (n : Nat) : (ofNat 1).le (powFrom r s n) = true :=
  powFrom_value (P := fun x _ => (ofNat 1).le x = true) (v := 1) (w := 1) one_le_mul hr hs n

/-- Repeated squaring keeps the order of its two numbers. -/
private theorem powFrom_le_powFrom {r r' s s' : Binary64} (hr : (ofNat 1).le r = true)
    (hs : (ofNat 1).le s = true) (hrr' : r.le r' = true) (hss' : s.le s' = true) (n : Nat) :
    (powFrom r s n).le (powFrom r' s' n) = true := by
  -- Induction on the exponent as it is halved, for all numbers that the loops may have reached.
  induction n using Nat.strong_induction_on generalizing r r' s s' with
  | _ n ih =>
    rcases Nat.eq_zero_or_pos n with rfl | hpos
    · rwa [powFrom_zero, powFrom_zero]
    · rw [powFrom_eq r, powFrom_eq r']
      have hsquare := mul_le_mul hs hs hss' hss'
      have hdigit := mul_le_mul hr hs hrr' hss'
      by_cases hodd : n % 2 = 1
      · rw [if_pos hodd, if_pos hodd]
        exact ih _ (by omega) (one_le_mul hr hs) (one_le_mul hs hs) hdigit hsquare
      · rw [if_neg hodd, if_neg hodd]
        exact ih _ (by omega) hr (one_le_mul hs hs) hrr' hsquare

/-- A power is no greater than the next one. One more carries through the ones at the end of the
exponent. Where these are, the first power multiplies a square into its result and the next one does
not; above them the two exponents agree, but for the digit that the carry ends in. -/
theorem powFrom_le_powFrom_succ {r s : Binary64} (hr : (ofNat 1).le r = true) (hrs : r.le s = true)
    (n : Nat) : (powFrom r s n).le (powFrom (ofNat 1) s (n + 1)) = true := by
  have hs := le_trans hr hrs
  induction n using Nat.strong_induction_on generalizing r s with
  | _ n ih =>
    rw [powFrom_eq r, powFrom_eq (ofNat 1)]
    by_cases hodd : n % 2 = 1
    · -- The carry goes on to the next digit.
      rw [if_pos hodd, if_neg (by omega), show (n + 1) / 2 = n / 2 + 1 by omega]
      exact ih _ (by omega) (one_le_mul hr hs) (mul_le_mul hr hs hrs (le_refl hs))
        (one_le_mul hs hs)
    · -- The carry ends here, and the rest of the two exponents is the same.
      rw [if_neg hodd, if_pos (by omega), one_mul hs, show (n + 1) / 2 = n / 2 by omega]
      exact powFrom_le_powFrom hr (one_le_mul hs hs) hrs (le_refl (one_le_mul hs hs)) _

/-- A power of a number from one on is no greater than that of a greater number. -/
theorem pow_le_pow_left {a b : Binary64} (ha : (ofNat 1).le a = true) (hab : a.le b = true)
    (n : Nat) : (a.pow n).le (b.pow n) = true :=
  powFrom_le_powFrom one_le_one ha one_le_one hab n

/-- A power of a number from one on is such a number. -/
theorem one_le_pow {a : Binary64} (ha : (ofNat 1).le a = true) (n : Nat) :
    (ofNat 1).le (a.pow n) = true :=
  one_le_powFrom one_le_one ha n

/-- A power of a number from one on is no greater than one with a greater exponent. -/
theorem pow_le_pow_right {a : Binary64} (ha : (ofNat 1).le a = true) {m n : Nat} (h : m ≤ n) :
    (a.pow m).le (a.pow n) = true := by
  induction h with
  | refl => exact le_refl (one_le_pow ha m)
  | step _ ih => exact le_trans ih (powFrom_le_powFrom_succ one_le_one ha _)

/-! ## Powers of two -/

/-- Powers of two are multiplied exactly, up to infinity. -/
private theorem ofNat_two_pow_mul (i j : Nat) :
    ofNat (2 ^ i) * ofNat (2 ^ j) = ofNat (2 ^ (i + j)) := by
  have hone : ∀ k, unitsInOne ≤ (Magnitude.ofNat (2 ^ k)).units := fun k =>
    Magnitude.unitsInOne_le_units_ofNat Nat.one_le_two_pow
  rw [ofNat_eq, ofNat_eq, ofNat_eq, mul_signed (hone i) (hone j),
    Magnitude.nearest_mul (Magnitude.units_ofNat_two_pow i) (Magnitude.units_ofNat_two_pow j)]
  -- Both sides are capped at the value of infinity, which is `2^1024`.
  congr 1
  apply Magnitude.units_inj
  rw [← Nat.pow_add, Magnitude.units_ofNat_two_pow, Magnitude.units_ofNat_two_pow,
    show min (min i 1024 + min j 1024) 1024 = min (i + j) 1024 by omega]

/-- The powers of a power of two are exact, up to infinity. -/
theorem pow_ofNat_two_pow (e n : Nat) : (ofNat (2 ^ e)).pow n = ofNat (2 ^ (e * n)) := by
  -- The relation that products keep: the number is a power of two, rounded.
  have hmul : ∀ {x y v w}, (∃ i, v = 2 ^ i ∧ x = ofNat v) → (∃ j, w = 2 ^ j ∧ y = ofNat w) →
      ∃ k, v * w = 2 ^ k ∧ x * y = ofNat (v * w) := by
    rintro _ _ _ _ ⟨i, rfl, rfl⟩ ⟨j, rfl, rfl⟩
    rw [← Nat.pow_add]
    exact ⟨i + j, rfl, ofNat_two_pow_mul i j⟩
  have hone : ∃ i, 1 = 2 ^ i ∧ ofNat 1 = ofNat 1 := ⟨0, (Nat.pow_zero 2).symm, rfl⟩
  obtain ⟨-, -, hpow⟩ := powFrom_value (P := fun x v => ∃ i, v = 2 ^ i ∧ x = ofNat v) hmul hone
    ⟨e, rfl, rfl⟩ n
  rw [pow, hpow, Nat.one_mul, Nat.pow_mul]

/-- Powers of two are finite below `2^1024`. -/
theorem isFinite_ofNat_two_pow (i : Nat) : (ofNat (2 ^ i)).isFinite = decide (i < 1024) := by
  rw [ofNat_eq, isFinite, Magnitude.isInfinite_ofNat_two_pow, ← decide_not]
  simp

/-- What is at most a finite number is finite. -/
theorem isFinite_of_le {x y : Binary64} (hx : (ofNat 1).le x = true) (hxy : x.le y = true)
    (hy : y.isFinite = true) : x.isFinite = true := by
  obtain ⟨b, rfl, -⟩ := one_le_iff.1 (le_trans hx hxy)
  obtain ⟨a, rfl, -⟩ := one_le_iff.1 hx
  rw [le_signed] at hxy
  rw [isFinite, Bool.not_eq_true', ← Bool.not_eq_true, Magnitude.isInfinite_iff] at hy ⊢
  omega

/-! ## Powers of whole numbers -/

/-- The number is a whole one. -/
def IsWhole (x : Binary64) (v : Nat) : Prop :=
  ∃ a : Magnitude, x = signed false a ∧ a.units = v * unitsInOne

/-- The number is a whole one as far as 53 digits can tell: it is `v` if that is less than `2^53`,
and it is at least `2^53` if `v` is. -/
def Matches (x : Binary64) (v : Nat) : Prop :=
  1 ≤ v ∧ ∃ a : Magnitude, x = signed false a ∧ (v < 2 ^ 53 → a.units = v * unitsInOne) ∧
    (2 ^ 53 ≤ v → 2 ^ 53 * unitsInOne ≤ a.units)

/-- A whole number that is not rounded matches itself. -/
theorem IsWhole.matches {x : Binary64} {v : Nat} (h : x.IsWhole v) (hv : 1 ≤ v) : x.Matches v := by
  obtain ⟨a, rfl, ha⟩ := h
  exact ⟨hv, a, rfl, fun _ => ha, fun hge => ha ▸ Nat.mul_le_mul_right _ hge⟩

/-- A whole number that is rounded matches itself: only beyond `2^53` may it have changed. -/
theorem matches_ofNat {v : Nat} (hv : 1 ≤ v) : (ofNat v).Matches v := by
  refine ⟨hv, .ofNat v, ofNat_eq v, fun hlt => Magnitude.units_ofNat_of_le (Nat.le_of_lt hlt),
    fun hge => ?_⟩
  rw [← Magnitude.units_ofNat_of_le (Nat.le_refl _)]
  exact Magnitude.units_ofNat_mono hge

/-- What matches a whole number has at least its value, as far as `2^53`. -/
private theorem min_mul_le_units {a : Magnitude} {v : Nat}
    (hlow : v < 2 ^ 53 → a.units = v * unitsInOne)
    (hhigh : 2 ^ 53 ≤ v → 2 ^ 53 * unitsInOne ≤ a.units) :
    min v (2 ^ 53) * unitsInOne ≤ a.units := by
  rcases Nat.lt_or_ge v (2 ^ 53) with hlt | hge
  · rw [Nat.min_eq_left (Nat.le_of_lt hlt), hlow hlt]
  · rw [Nat.min_eq_right hge]
    exact hhigh hge

/-- Products match as well. -/
theorem Matches.mul {x y : Binary64} {v w : Nat} (hx : x.Matches v) (hy : y.Matches w) :
    (x * y).Matches (v * w) := by
  obtain ⟨hv, a, rfl, ha, ha'⟩ := hx
  obtain ⟨hw, b, rfl, hb, hb'⟩ := hy
  have hmin := min_mul_le_units ha ha'
  have hmin' := min_mul_le_units hb hb'
  -- Both factors are numbers from one on, so their product is a rounded product of values.
  have hone : unitsInOne ≤ a.units :=
    Nat.le_trans (Nat.le_mul_of_pos_left _ (by omega)) hmin
  have hone' : unitsInOne ≤ b.units :=
    Nat.le_trans (Nat.le_mul_of_pos_left _ (by omega)) hmin'
  refine ⟨Nat.mul_pos hv hw, _, mul_signed hone hone', fun hlt => ?_, fun hge => ?_⟩
  · have hv53 : v < 2 ^ 53 := Nat.lt_of_le_of_lt (Nat.le_mul_of_pos_right v hw) hlt
    have hw53 : w < 2 ^ 53 := Nat.lt_of_le_of_lt (Nat.le_mul_of_pos_left w hv) hlt
    rw [Magnitude.nearest_mul (ha hv53) (hb hw53)]
    exact Magnitude.units_ofNat_of_le (Nat.le_of_lt hlt)
  · -- A factor of `2^53` is enough on its own, as the other one is at least one.
    have hproduct : 2 ^ 53 ≤ min v (2 ^ 53) * min w (2 ^ 53) := by
      rcases Nat.lt_or_ge v (2 ^ 53) with hv53 | hv53
      · rcases Nat.lt_or_ge w (2 ^ 53) with hw53 | hw53
        · rwa [Nat.min_eq_left (Nat.le_of_lt hv53), Nat.min_eq_left (Nat.le_of_lt hw53)]
        · rw [Nat.min_eq_right hw53]
          exact Nat.le_mul_of_pos_left _ (by omega)
      · rw [Nat.min_eq_right hv53]
        exact Nat.le_mul_of_pos_right _ (by omega)
    rw [← Magnitude.units_ofNat_of_le (Nat.le_refl _)]
    apply Magnitude.le_units_nearest Magnitude.unitsInOne_pos
    rw [Magnitude.units_ofNat_of_le (Nat.le_refl _)]
    calc 2 ^ 53 * unitsInOne * unitsInOne ≤
          min v (2 ^ 53) * min w (2 ^ 53) * unitsInOne * unitsInOne :=
          Nat.mul_le_mul_right _ (Nat.mul_le_mul_right _ hproduct)
      _ = min v (2 ^ 53) * unitsInOne * (min w (2 ^ 53) * unitsInOne) := by ac_rfl
      _ ≤ a.units * b.units := Nat.mul_le_mul hmin hmin'

/-- Powers match as well. -/
theorem Matches.pow {x : Binary64} {v : Nat} (hx : x.Matches v) (n : Nat) :
    (x.pow n).Matches (v ^ n) := by
  have hpow := powFrom_value (P := Matches) Matches.mul (matches_ofNat (Nat.le_refl 1)) hx n
  rwa [Nat.one_mul] at hpow

end Binary64

end Safeguard
