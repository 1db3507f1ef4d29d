import Mathlib.Order.WellFounded
import Safeguard.Number.Binary64

/-!
# Rounding to the nearest number

Numbers of the format are in one order, by rank and by value. This file says where rounding puts a
value in that order: above rank `n` just if the value is beyond the middle of the number at `n` and
the next one, or is the middle and `n` is odd. That rounding keeps the order, and leaves a number of
the format alone, are consequences.

## Key results

- `Magnitude.unitsAt_strictMono`: ranks and values are in the same order
- `Magnitude.exists_unitsAt_eq`: what is of the format
- `Magnitude.lt_rank_nearest_iff`: where rounding puts a value
- `Magnitude.le_units_nearest`, `Magnitude.units_nearest_le`: rounding never passes a number of the
  format
- `Magnitude.units_ofNat_of_le`: the natural numbers that are of the format
- `Magnitude.nearest_units`, `Magnitude.units_nearest_mono`: rounding keeps numbers and order
-/

namespace Safeguard

namespace Magnitude

/-! ## Ranks and values -/

/-- The number `c · 2^k` of the format, with all 53 digits of `c` in use, stands at this rank. -/
private theorem unitsAt_add {c : Nat} (h : 2 ^ 52 ≤ c) (h' : c < 2 ^ 53) (k : Nat) :
    unitsAt (k * 2 ^ 52 + c) = c * 2 ^ k := by
  have hdiv : (k * 2 ^ 52 + c) / 2 ^ 52 = k + 1 := by omega
  have hmod : (k * 2 ^ 52 + c) % 2 ^ 52 = c - 2 ^ 52 := by omega
  unfold unitsAt
  rw [if_neg (by omega), hdiv, hmod, Nat.add_sub_cancel' h, Nat.add_sub_cancel]

/-- The next number after `c · 2^k` is `(c + 1) · 2^k`, also where that is a power of two. -/
private theorem unitsAt_add_succ {c : Nat} (h : 2 ^ 52 ≤ c) (h' : c < 2 ^ 53) (k : Nat) :
    unitsAt (k * 2 ^ 52 + c + 1) = (c + 1) * 2 ^ k := by
  by_cases hlast : c + 1 < 2 ^ 53
  · rw [Nat.add_assoc, unitsAt_add (by omega) hlast]
  · -- All 53 digits are ones, so the next number has a larger exponent.
    have hnext := unitsAt_add (c := 2 ^ 52) (Nat.le_refl _) (by omega) (k + 1)
    rw [show (k + 1) * 2 ^ 52 + 2 ^ 52 = k * 2 ^ 52 + c + 1 by omega] at hnext
    rw [hnext, show c + 1 = 2 ^ 52 * 2 by omega, Nat.mul_assoc, ← Nat.pow_succ']

/-- The first `2^53` numbers are the multiples of the smallest one. -/
private theorem unitsAt_of_le {n : Nat} (h : n ≤ 2 ^ 53) : unitsAt n = n := by
  by_cases hsmall : n < 2 ^ 52
  · exact if_pos hsmall
  · rcases Nat.eq_or_lt_of_le h with rfl | hlt
    · exact unitsAt_add (c := 2 ^ 52) (Nat.le_refl _) (by omega) 1
    · have hunits := unitsAt_add (c := n) (by omega) hlt 0
      rwa [Nat.zero_mul, Nat.zero_add, Nat.pow_zero, Nat.mul_one] at hunits

/-- A rank is below `2^52`, or that of a number with 53 digits. -/
private theorem rank_cases (n : Nat) :
    n < 2 ^ 52 ∨ ∃ k c, n = k * 2 ^ 52 + c ∧ 2 ^ 52 ≤ c ∧ c < 2 ^ 53 := by
  by_cases h : n < 2 ^ 52
  · exact .inl h
  · exact .inr ⟨n / 2 ^ 52 - 1, 2 ^ 52 + n % 2 ^ 52, by omega, by omega, by omega⟩

/-- A number with at most 53 digits before a power of two is of the format. -/
theorem exists_unitsAt_eq {c : Nat} (h : c ≤ 2 ^ 53) (k : Nat) :
    ∃ rank ≤ (k + 2) * 2 ^ 52, unitsAt rank = c * 2 ^ k := by
  -- Digits are moved from the power into the number until all 53 are in use.
  induction k generalizing c with
  | zero => exact ⟨c, by omega, by rw [Nat.pow_zero, Nat.mul_one, unitsAt_of_le h]⟩
  | succ k ih =>
    by_cases hfull : c ≤ 2 ^ 52
    · obtain ⟨rank, hrank, hunits⟩ := ih (c := c * 2) (by omega)
      exact ⟨rank, Nat.le_trans hrank (Nat.mul_le_mul_right _ (by omega)),
        by rw [hunits, Nat.mul_assoc, ← Nat.pow_succ']⟩
    · refine ⟨k * 2 ^ 52 + 2 ^ 52 + (c - 1) + 1, by omega, ?_⟩
      rw [← Nat.succ_mul, unitsAt_add_succ (by omega) (by omega), Nat.sub_add_cancel (by omega)]

/-- The next rank has a greater value. -/
private theorem unitsAt_lt_succ (n : Nat) : unitsAt n < unitsAt (n + 1) := by
  -- Below `2^52` the steps are of one unit, above it of the last of 53 digits.
  rcases rank_cases n with hlt | ⟨k, c, rfl, hc, hc'⟩
  · rw [unitsAt_of_le (by omega), unitsAt_of_le (by omega)]
    exact Nat.lt_succ_self n
  · rw [unitsAt_add hc hc', unitsAt_add_succ hc hc']
    exact Nat.mul_lt_mul_of_pos_right (Nat.lt_succ_self c) (Nat.two_pow_pos k)

/-- Greater ranks have greater values. -/
theorem unitsAt_strictMono : StrictMono unitsAt :=
  strictMono_nat_of_lt_succ unitsAt_lt_succ

/-- A value has 53 digits at most, or the rank that is found for it is made of its first 53. -/
private theorem floorRank_cases (q : Nat) :
    floorRank q = q ∧ q < 2 ^ 53 ∨
      ∃ k, floorRank q = k * 2 ^ 52 + q / 2 ^ k ∧ 2 ^ 52 ≤ q / 2 ^ k ∧ q / 2 ^ k < 2 ^ 53 := by
  unfold floorRank
  by_cases h : q < 2 ^ 53
  · exact .inl ⟨if_pos h, h⟩
  · rw [if_neg h]
    -- The leading 53 digits of the value, and the place of the last of them.
    have hq : q ≠ 0 := by omega
    have hlog : 53 ≤ q.log2 := (Nat.le_log2 hq).2 (by omega)
    have hk : q.log2 = 52 + (q.log2 - 52) := by omega
    generalize q.log2 - 52 = k at hk ⊢
    have hpos : 0 < 2 ^ k := Nat.pow_pos (by decide)
    refine .inr ⟨k, rfl, ?_, ?_⟩
    · rw [Nat.le_div_iff_mul_le hpos, ← Nat.pow_add, ← hk]
      exact Nat.log2_self_le hq
    · rw [Nat.div_lt_iff_lt_mul hpos, ← Nat.pow_add, show 53 + k = q.log2 + 1 by omega]
      exact Nat.lt_log2_self

/-- The rank that is found for a value has no greater one. -/
private theorem unitsAt_floorRank_le (q : Nat) : unitsAt (floorRank q) ≤ q := by
  rcases floorRank_cases q with ⟨hq, hlt⟩ | ⟨k, hq, hlow, hhigh⟩
  · rw [hq, unitsAt_of_le (Nat.le_of_lt hlt)]
  · rw [hq, unitsAt_add hlow hhigh]
    exact Nat.div_mul_le_self q (2 ^ k)

/-- The rank after the one that is found for a value has a greater one. -/
private theorem lt_unitsAt_floorRank_succ (q : Nat) : q < unitsAt (floorRank q + 1) := by
  rcases floorRank_cases q with ⟨hq, -⟩ | ⟨k, hq, hlow, hhigh⟩
  · rw [hq]
    exact Nat.lt_of_succ_le unitsAt_strictMono.le_apply
  · rw [hq, unitsAt_add_succ hlow hhigh]
    exact (Nat.div_lt_iff_lt_mul (Nat.two_pow_pos k)).1 (Nat.lt_succ_self _)

/-- A magnitude is its rank. -/
private theorem ext_rank {a b : Magnitude} (h : a.rank = b.rank) : a = b := by
  cases a
  cases b
  simp_all

/-- Values are in the order of their ranks. -/
private theorem units_le_iff {a b : Magnitude} : a.units ≤ b.units ↔ a.rank ≤ b.rank :=
  unitsAt_strictMono.le_iff_le

/-- Different magnitudes have different values. -/
theorem units_inj {a b : Magnitude} (h : a.units = b.units) : a = b :=
  ext_rank (unitsAt_strictMono.injective h)

/-- Nothing is greater than infinity. -/
theorem units_le_infinity (m : Magnitude) : m.units ≤ infinity.units :=
  units_le_iff.2 m.rank_le

/-- Only infinity reaches its value. -/
theorem isInfinite_iff {m : Magnitude} : m.isInfinite = true ↔ infinity.units ≤ m.units := by
  rw [units_le_iff, isInfinite, beq_iff_eq]
  have := m.rank_le
  show m.rank = infinityRank ↔ infinityRank ≤ m.rank
  omega

/-! ## Rounding -/

/-- A value `num / den` that is rounded goes above rank `n`: it is beyond the middle between the
numbers at `n` and after it, or it is the middle and `n` is odd. -/
def GoesAbove (num den n : Nat) : Prop :=
  den * (unitsAt n + unitsAt (n + 1)) < 2 * num ∨
    den * (unitsAt n + unitsAt (n + 1)) = 2 * num ∧ n % 2 = 1

instance (num den n : Nat) : Decidable (GoesAbove num den n) :=
  inferInstanceAs (Decidable (_ ∨ _))

/-- A value goes above every rank before that of a number which it reaches. -/
private theorem goesAbove_of_lt {num den n r : Nat} (hden : 0 < den) (hn : n < r)
    (hnum : den * unitsAt r ≤ num) : GoesAbove num den n := by
  have hfirst : unitsAt n < unitsAt r := unitsAt_strictMono hn
  have hsecond : unitsAt (n + 1) ≤ unitsAt r := unitsAt_strictMono.monotone hn
  refine .inl ?_
  calc den * (unitsAt n + unitsAt (n + 1)) < den * (unitsAt r + unitsAt r) :=
        Nat.mul_lt_mul_of_pos_left (by omega) hden
    _ ≤ 2 * num := by rw [Nat.mul_add]; omega

/-- A value goes above no rank from that of a number on which it does not exceed. -/
private theorem not_goesAbove_of_le {num den n r : Nat} (hden : 0 < den) (hn : r ≤ n)
    (hnum : num ≤ den * unitsAt r) : ¬ GoesAbove num den n := by
  have hfirst : unitsAt r ≤ unitsAt n := unitsAt_strictMono.monotone hn
  have hsecond : unitsAt n < unitsAt (n + 1) := unitsAt_lt_succ n
  have hmiddle : 2 * num < den * (unitsAt n + unitsAt (n + 1)) :=
    calc 2 * num ≤ den * (unitsAt r + unitsAt r) := by rw [Nat.mul_add]; omega
      _ < den * (unitsAt n + unitsAt (n + 1)) := Nat.mul_lt_mul_of_pos_left (by omega) hden
  rintro (h | ⟨h, -⟩) <;> omega

/-- Rounding chooses between two neighbours, and nothing goes above infinity. -/
private theorem rank_nearest (num den : Nat) :
    (nearest num den).rank = min infinityRank
      (if GoesAbove num den (floorRank (num / den)) then floorRank (num / den) + 1
        else floorRank (num / den)) := by
  -- A rank beyond infinity becomes that of infinity.
  have hcap : ∀ n, (if h : n ≤ infinityRank then (⟨n, h⟩ : Magnitude) else infinity).rank =
      min infinityRank n := by
    intro n
    split
    · next hle => exact (Nat.min_eq_right hle).symm
    · next hover => exact (Nat.min_eq_left (Nat.le_of_not_le hover)).symm
  unfold nearest
  dsimp only
  rw [hcap]
  generalize floorRank (num / den) = below at *
  congr 1
  -- The comparison with the middle decides, and in the middle the even rank.
  split
  · next hlt =>
    rw [Nat.compare_eq_lt] at hlt
    rw [if_neg (by unfold GoesAbove; omega)]
  · next hgt =>
    rw [Nat.compare_eq_gt] at hgt
    rw [if_pos (by unfold GoesAbove; omega)]
  · next heq =>
    rw [Nat.compare_eq_eq] at heq
    by_cases heven : below % 2 = 0
    · rw [if_pos heven, if_neg (by unfold GoesAbove; omega)]
    · rw [if_neg heven, if_pos (by unfold GoesAbove; omega)]

/-- A value is rounded to a number above rank `n` as the rule of the nearest number says. -/
theorem lt_rank_nearest_iff {num den n : Nat} (hden : 0 < den) (hn : n < infinityRank) :
    n < (nearest num den).rank ↔ GoesAbove num den n := by
  have hlow := unitsAt_floorRank_le (num / den)
  have hhigh := lt_unitsAt_floorRank_succ (num / den)
  rw [Nat.le_div_iff_mul_le hden, Nat.mul_comm] at hlow
  rw [Nat.div_lt_iff_lt_mul hden, Nat.mul_comm] at hhigh
  rw [rank_nearest, Nat.lt_min, and_iff_right hn]
  generalize floorRank (num / den) = below at *
  -- Below the found rank the value goes above, beyond the next one it does not, and at the found
  -- rank the rule decides.
  rcases Nat.lt_trichotomy n below with hlt | rfl | hgt
  · exact iff_of_true (by split <;> omega) (goesAbove_of_lt hden hlt hlow)
  · split
    · next habove => exact iff_of_true (Nat.lt_succ_self n) habove
    · next hnot => exact iff_of_false (Nat.lt_irrefl n) hnot
  · exact iff_of_false (by split <;> omega) (not_goesAbove_of_le hden hgt (Nat.le_of_lt hhigh))

/-- A value that reaches a number of the format is not rounded below it. -/
theorem le_units_nearest {m : Magnitude} {num den : Nat} (hden : 0 < den)
    (h : m.units * den ≤ num) : m.units ≤ (nearest num den).units := by
  -- Otherwise the number itself would be a rank above which the value goes.
  refine units_le_iff.2 (Nat.le_of_not_lt fun hlt => ?_)
  have hn : (nearest num den).rank < infinityRank := Nat.lt_of_lt_of_le hlt m.rank_le
  rw [Nat.mul_comm] at h
  exact Nat.lt_irrefl _ ((lt_rank_nearest_iff hden hn).2 (goesAbove_of_lt hden hlt h))

/-- A value that does not exceed a number of the format is not rounded above it. -/
theorem units_nearest_le {m : Magnitude} {num den : Nat} (hden : 0 < den)
    (h : num ≤ m.units * den) : (nearest num den).units ≤ m.units := by
  refine units_le_iff.2 (Nat.le_of_not_lt fun hlt => ?_)
  have hn : m.rank < infinityRank := Nat.lt_of_lt_of_le hlt (nearest num den).rank_le
  rw [Nat.mul_comm] at h
  exact not_goesAbove_of_le hden (Nat.le_refl _) h ((lt_rank_nearest_iff hden hn).1 hlt)

/-- A number of the format is rounded to itself. -/
theorem nearest_units (m : Magnitude) {den : Nat} (hden : 0 < den) :
    nearest (m.units * den) den = m :=
  units_inj (Nat.le_antisymm (units_nearest_le hden (Nat.le_refl _))
    (le_units_nearest hden (Nat.le_refl _)))

/-- A value that goes above no more ranks than another one is not rounded to more. -/
private theorem units_nearest_le_units_nearest {num num' den den' : Nat} (hden : 0 < den)
    (hden' : 0 < den') (h : ∀ n, GoesAbove num den n → GoesAbove num' den' n) :
    (nearest num den).units ≤ (nearest num' den').units := by
  refine units_le_iff.2 (Nat.le_of_not_lt fun hlt => ?_)
  have hn : (nearest num' den').rank < infinityRank :=
    Nat.lt_of_lt_of_le hlt (nearest num den).rank_le
  have habove : GoesAbove num den (nearest num' den').rank := (lt_rank_nearest_iff hden hn).1 hlt
  exact Nat.lt_irrefl _ ((lt_rank_nearest_iff hden' hn).2 (h _ habove))

/-- Rounding keeps the order. -/
theorem units_nearest_mono {num num' den : Nat} (hden : 0 < den) (h : num ≤ num') :
    (nearest num den).units ≤ (nearest num' den).units := by
  refine units_nearest_le_units_nearest hden hden fun n habove => ?_
  unfold GoesAbove at habove ⊢
  omega

/-- Rounding depends on the value alone. -/
private theorem nearest_mul_right {num den k : Nat} (hden : 0 < den) (hk : 0 < k) :
    nearest (num * k) (den * k) = nearest num den := by
  -- The rule compares products with the denominator, so a common factor cancels.
  have hiff : ∀ n, GoesAbove (num * k) (den * k) n ↔ GoesAbove num den n := by
    intro n
    unfold GoesAbove
    rw [Nat.mul_right_comm, ← Nat.mul_assoc, Nat.mul_lt_mul_right hk, Nat.mul_right_cancel_iff hk]
  have hpos : 0 < den * k := Nat.mul_pos hden hk
  exact units_inj (Nat.le_antisymm
    (units_nearest_le_units_nearest hpos hden fun n => (hiff n).1)
    (units_nearest_le_units_nearest hden hpos fun n => (hiff n).2))

/-! ## Whole numbers -/

/-- The units in the number one. No proof needs to know how many they are, and Lean is kept from
computing with them. -/
@[irreducible] def unitsInOne : Nat := 2 ^ 1074

/-- One is `2^1074` units of the smallest number. -/
theorem unitsInOne_eq : unitsInOne = 2 ^ 1074 := by
  unfold unitsInOne
  rfl

/-- Two is one power of two more. -/
theorem two_mul_unitsInOne : 2 * unitsInOne = 2 ^ 1075 := by
  -- The exponents are variables here, so that no power is computed.
  have hpow : ∀ j k, j = k + 1 → 2 * 2 ^ k = 2 ^ j := by
    rintro _ k rfl
    exact Nat.pow_succ'.symm
  rw [unitsInOne_eq]
  exact hpow 1075 1074 rfl

/-- One is not nothing. -/
theorem unitsInOne_pos : 0 < unitsInOne :=
  unitsInOne_eq ▸ Nat.two_pow_pos 1074

/-- The number nearest to a natural number. -/
def ofNat (n : Nat) : Magnitude := nearest (n * unitsInOne) 1

/-- A natural number that reaches a number of the format is not rounded below it. -/
private theorem le_units_ofNat {m : Magnitude} {n : Nat} (h : m.units ≤ n * unitsInOne) :
    m.units ≤ (ofNat n).units :=
  le_units_nearest Nat.one_pos (by rwa [Nat.mul_one])

/-- A natural number that does not exceed a number of the format is not rounded above it. -/
theorem units_ofNat_le {m : Magnitude} {n : Nat} (h : n * unitsInOne ≤ m.units) :
    (ofNat n).units ≤ m.units :=
  units_nearest_le Nat.one_pos (by rwa [Nat.mul_one])

/-- Rounding keeps the order of natural numbers. -/
theorem units_ofNat_mono {m n : Nat} (h : m ≤ n) : (ofNat m).units ≤ (ofNat n).units :=
  units_nearest_mono Nat.one_pos (Nat.mul_le_mul_right _ h)

/-- A natural number that is of the format is not rounded. -/
theorem ofNat_eq {m : Magnitude} {n : Nat} (h : m.units = n * unitsInOne) : ofNat n = m :=
  units_inj (Nat.le_antisymm (units_ofNat_le (Nat.le_of_eq h.symm))
    (le_units_ofNat (Nat.le_of_eq h)))

/-- The natural numbers up to `2^53` are of the format. -/
theorem units_ofNat_of_le {n : Nat} (h : n ≤ 2 ^ 53) : (ofNat n).units = n * unitsInOne := by
  obtain ⟨rank, hrank, hunits⟩ := exists_unitsAt_eq h 1074
  have hle : rank ≤ infinityRank := Nat.le_trans hrank (by decide)
  rw [← unitsInOne_eq] at hunits
  rw [ofNat_eq (m := ⟨rank, hle⟩) hunits]
  exact hunits

/-- A product of whole numbers is rounded like any whole number. -/
theorem nearest_mul {a b : Magnitude} {m n : Nat} (ha : a.units = m * unitsInOne)
    (hb : b.units = n * unitsInOne) : nearest (a.units * b.units) unitsInOne = ofNat (m * n) := by
  have hvalue : a.units * b.units = m * n * unitsInOne * unitsInOne := by
    rw [ha, hb]
    ac_rfl
  rw [hvalue, ofNat, ← nearest_mul_right Nat.one_pos unitsInOne_pos, Nat.one_mul]

/-- Zero has no units. -/
theorem units_zero : zero.units = 0 :=
  rfl

/-- Zero is of the format. -/
theorem ofNat_zero : ofNat 0 = zero :=
  ofNat_eq (Nat.zero_mul _).symm

/-- One is of the format. -/
theorem units_ofNat_one : (ofNat 1).units = unitsInOne := by
  rw [units_ofNat_of_le (by decide), Nat.one_mul]

/-- What is rounded from one on stays from one on. -/
theorem unitsInOne_le_units_ofNat {n : Nat} (h : 1 ≤ n) : unitsInOne ≤ (ofNat n).units := by
  rw [← units_ofNat_one]
  exact units_ofNat_mono h

/-- What is at least one does not have the rank of zero. -/
theorem rank_pos_of_unitsInOne_le {m : Magnitude} (h : unitsInOne ≤ m.units) : 0 < m.rank := by
  refine Nat.pos_of_ne_zero fun hzero => ?_
  have hunits : m.units = 0 := by
    rw [units, hzero]
    rfl
  rw [hunits] at h
  exact Nat.not_lt_of_le h unitsInOne_pos

/-- What is at least one is not zero. -/
theorem isZero_of_unitsInOne_le {m : Magnitude} (h : unitsInOne ≤ m.units) : m.isZero = false :=
  beq_eq_false_iff_ne.2 (Nat.pos_iff_ne_zero.1 (rank_pos_of_unitsInOne_le h))

/-- The powers of two up to `2^1024` are of the format, where infinity takes the place of the last
one. -/
private theorem exists_units_two_pow {i : Nat} (h : i ≤ 1024) :
    ∃ m : Magnitude, m.units = 2 ^ i * unitsInOne ∧ m.rank = (i + 1023) * 2 ^ 52 := by
  have hle : (i + 1023) * 2 ^ 52 ≤ infinityRank := Nat.mul_le_mul_right (2 ^ 52) (by omega)
  have hunits : unitsAt ((i + 1022) * 2 ^ 52 + 2 ^ 52) = 2 ^ 52 * 2 ^ (i + 1022) :=
    unitsAt_add (Nat.le_refl _) (by decide) _
  -- The exponent is a variable here, so that no power is computed.
  have hpow : ∀ one, one = 1074 → 2 ^ 52 * 2 ^ (i + 1022) = 2 ^ i * 2 ^ one := by
    intro one hone
    rw [← Nat.pow_add, ← Nat.pow_add, show 52 + (i + 1022) = i + one by omega]
  refine ⟨⟨(i + 1023) * 2 ^ 52, hle⟩, ?_, rfl⟩
  rw [hpow 1074 rfl, ← unitsInOne_eq, ← Nat.succ_mul] at hunits
  exact hunits

/-- Infinity stands where `2^1024` would. -/
private theorem units_infinity : infinity.units = 2 ^ 1024 * unitsInOne := by
  obtain ⟨m, hunits, hrank⟩ := exists_units_two_pow (Nat.le_refl 1024)
  rw [← hunits, ext_rank (a := m) (b := infinity) hrank]

/-- Powers of two that are beyond the format are rounded to infinity. -/
private theorem ofNat_two_pow_of_le {last i : Nat} (hlast : infinity.units = 2 ^ last * unitsInOne)
    (h : last ≤ i) : ofNat (2 ^ i) = infinity := by
  have hreached : infinity.units ≤ 2 ^ i * unitsInOne := by
    rw [hlast]
    exact Nat.mul_le_mul_right _ (Nat.pow_le_pow_right Nat.two_pos h)
  exact units_inj (Nat.le_antisymm (units_le_infinity _) (le_units_ofNat hreached))

/-- All other powers of two are not rounded. -/
theorem units_ofNat_two_pow (i : Nat) :
    (ofNat (2 ^ i)).units = 2 ^ min i 1024 * unitsInOne := by
  rcases Nat.le_total i 1024 with hle | hge
  · obtain ⟨m, hunits, -⟩ := exists_units_two_pow hle
    rw [ofNat_eq hunits, hunits, Nat.min_eq_left hle]
  · rw [ofNat_two_pow_of_le units_infinity hge, units_infinity, Nat.min_eq_right hge]

/-- Powers of two are rounded to infinity from `2^1024` on. -/
theorem isInfinite_ofNat_two_pow (i : Nat) : (ofNat (2 ^ i)).isInfinite = decide (1024 ≤ i) := by
  -- Below `2^1024` a power of two is a value of its own, whose rank is below that of infinity.
  rcases Nat.lt_or_ge i 1024 with hlt | hge
  · obtain ⟨m, hunits, hrank⟩ := exists_units_two_pow (Nat.le_of_lt hlt)
    have hne : m.rank ≠ infinityRank := by
      rw [hrank, infinityRank]
      omega
    rw [ofNat_eq hunits, isInfinite, decide_eq_false (by omega), beq_eq_false_iff_ne]
    exact hne
  · rw [ofNat_two_pow_of_le units_infinity hge, decide_eq_true hge]
    rfl

end Magnitude

/-! ## Numbers that are not negative -/

namespace Binary64

/-- A natural number is rounded as a magnitude, without a sign. -/
theorem ofNat_eq (n : Nat) : ofNat n = signed false (.ofNat n) := by
  rw [ofNat, ofRatio, ← Magnitude.unitsInOne_eq]
  rfl

/-- Numbers that are not negative are compared by value. -/
theorem le_signed {a b : Magnitude} :
    (signed false a).le (signed false b) = true ↔ a.units ≤ b.units := by
  show decide ((a.rank : Int) ≤ (b.rank : Int)) = true ↔ _
  rw [decide_eq_true_iff, Int.ofNat_le, Magnitude.units_le_iff]

end Binary64

end Safeguard
