import Mathlib.Order.Bounds.Basic
import Safeguard.Proofs.BackoffGrowth
import Safeguard.Proofs.RetryCorrect

/-!
# Retries without an initial delay

Zero times the power of the multiplier is zero for as long as the power is finite. Zero times
infinity is no number, and then the longest delay passes. The powers of a policy that is in order
grow, so there is one retry up to which nothing is waited for, and from which on the longest delay
is. Powers of two around the multiplier say when that is.

## Key results

- `RetryPolicy.exists_first_infinite`: the retry from which on the power is infinite
- `Retry.offset_eq_mul`: how long a run waits in all
- `Retry.exists_now_call`: when a run ends
- `Retry.waits_once_infinite`: a policy without an initial delay
-/

namespace Safeguard

namespace RetryPolicy

variable {p : RetryPolicy}

/-! ## When the power is infinite -/

/-- The second retry takes the multiplier as it is. -/
private theorem growth_two (h : p.validate = .ok ()) : p.growth 2 = p.multiplier := by
  have hone := (multiplier_of_validate h).1
  show Binary64.powFrom (.ofNat 1) p.multiplier 1 = p.multiplier
  rw [Binary64.powFrom_eq, if_pos rfl, Binary64.powFrom_zero, Binary64.one_mul hone]

/-- A power is finite if a later one is. -/
private theorem growth_isFinite_of_le (h : p.validate = .ok ()) {j k : UInt32} (hjk : j ≤ k)
    (hk : (p.growth k).isFinite = true) : (p.growth j).isFinite = true :=
  Binary64.isFinite_of_le (one_le_growth h j) (growth_le_growth h hjk) hk

/-- The powers are finite up to some retry, which comes after the second one, and infinite from
there on. -/
theorem exists_first_infinite (h : p.validate = .ok ()) :
    ∃ first, 2 < first ∧ ∀ k : UInt32, (p.growth k).isFinite = decide (k.toNat < first) := by
  classical
  -- Either some word has an infinite power, and the first one is where it begins, or none has.
  by_cases hex : ∃ n, ∃ k : UInt32, k.toNat = n ∧ (p.growth k).isFinite = false
  · obtain ⟨k₀, hk₀, hinfinite⟩ := Nat.find_spec hex
    refine ⟨Nat.find hex, Nat.lt_of_not_le fun hle => ?_, fun k => ?_⟩
    · -- The power before the second retry is the multiplier, which is finite.
      have htwo : k₀ ≤ 2 := hk₀.trans_le hle
      have hfinite := growth_isFinite_of_le h htwo
        ((growth_two h).symm ▸ (multiplier_of_validate h).2)
      rw [hinfinite] at hfinite
      cases hfinite
    · by_cases hlt : k.toNat < Nat.find hex
      · rw [decide_eq_true hlt, ← Bool.not_eq_false]
        exact fun hk => Nat.find_min hex hlt ⟨k, rfl, hk⟩
      · rw [decide_eq_false hlt, ← Bool.not_eq_true]
        intro hk
        have hle : k₀ ≤ k := hk₀.trans_le (Nat.le_of_not_lt hlt)
        rw [growth_isFinite_of_le h hle hk] at hinfinite
        cases hinfinite
  · -- No word counts as far as the first infinite power.
    refine ⟨2 ^ 32, by decide, fun k => ?_⟩
    rw [decide_eq_true k.toNat_lt, ← Bool.not_eq_false]
    exact fun hk => hex ⟨_, k, rfl, hk⟩

/-- A multiplier of at most `2^e` keeps the power finite while `e` times the exponent is below
1024. -/
private theorem growth_isFinite_of_multiplier_le (h : p.validate = .ok ()) {e : Nat} {k : UInt32}
    (hle : p.multiplier.le (.ofNat (2 ^ e)) = true) (hk : e * (k.toNat - 1) < 1024) :
    (p.growth k).isFinite = true := by
  refine Binary64.isFinite_of_le (one_le_growth h k)
    (Binary64.pow_le_pow_left (multiplier_of_validate h).1 hle _) ?_
  rw [Binary64.pow_ofNat_two_pow, Binary64.isFinite_ofNat_two_pow, decide_eq_true_eq]
  exact Nat.lt_of_le_of_lt (Nat.mul_le_mul_left e (Nat.min_le_left _ _)) hk

/-- A multiplier of at least `2^e` makes the power infinite once `e` times the exponent is 1024. -/
private theorem growth_isInfinite_of_le_multiplier {e : Nat} {k : UInt32}
    (hle : (Binary64.ofNat (2 ^ e)).le p.multiplier = true) (hk : 1024 ≤ e * (k.toNat - 1)) :
    (p.growth k).isFinite = false := by
  have hone : (Binary64.ofNat 1).le (.ofNat (2 ^ e)) = true :=
    Binary64.ofNat_le_ofNat Nat.one_le_two_pow
  have hpos : 1 ≤ e := Nat.pos_of_ne_zero fun hzero => by simp [hzero] at hk
  -- The exponent is cut far beyond 1024.
  have hexponent : 1024 ≤ e * min (k.toNat - 1) maxExponent := by
    rcases Nat.le_total (k.toNat - 1) maxExponent with hcut | hcut
    · rwa [Nat.min_eq_left hcut]
    · rw [Nat.min_eq_right hcut]
      exact Nat.le_trans (by decide) (Nat.le_mul_of_pos_left maxExponent hpos)
  have hpow := Binary64.pow_le_pow_left hone hle (min (k.toNat - 1) maxExponent)
  rw [← Bool.not_eq_true]
  intro hfinite
  have hearlier := Binary64.isFinite_of_le (Binary64.one_le_pow hone _) hpow hfinite
  rw [Binary64.pow_ofNat_two_pow, Binary64.isFinite_ofNat_two_pow, decide_eq_true_eq] at hearlier
  exact Nat.not_lt_of_le hexponent hearlier

end RetryPolicy

/-! ## Runs of attempts that take no time -/

namespace Retry

variable {β γ ε : Type} {policy : RetryPolicy} {plan : Nat → Trial ε γ}

/-- Attempts that take no time are only kept apart by the delays, which pass from one retry on. -/
theorem offset_eq_mul {first wait k : Nat} (hfirst : 1 ≤ first)
    (hplan : ∀ i, (plan i).delay = .zero)
    (hdelay : ∀ i ≤ k, (policy.delayFor (.ofNat i)).sleepMillis = if i < first then 0 else wait) :
    offset policy plan k = (k + 1 - first) * wait := by
  -- Induction on the retries, each of which waits for nothing or for the longest delay.
  induction k with
  | zero => rw [Nat.sub_eq_zero_of_le hfirst, Nat.zero_mul, offset]
  | succ k ih =>
    rw [offset, ih fun i hi => hdelay i (Nat.le_succ_of_le hi), hplan, Duration.sleepMillis_zero,
      hdelay (k + 1) (Nat.le_refl _)]
    split
    · next hlt =>
      rw [Nat.sub_eq_zero_of_le hlt, Nat.sub_eq_zero_of_le (Nat.le_of_lt hlt), Nat.zero_mul]
    · next hge =>
      rw [show k + 1 + 1 - first = (k + 1 - first) + 1 by omega, Nat.add_mul, Nat.one_mul,
        Nat.add_zero]

variable [Seen ε]

variable (plan) in
/-- Attempts that all fail with errors worth another one use up the budget. -/
private theorem isLeast_maxAttempts (hvalid : policy.validate = .ok ())
    (hplan : ∀ i, ∃ e, (plan i).ending = .returned (.error e) ∧
      policy.accepts (Seen.failure e) = true) :
    IsLeast {i | 1 ≤ i ∧ StopsAt policy plan i} policy.maxAttempts.toNat := by
  refine ⟨⟨maxAttempts_pos_of_validate hvalid, stopsAt_maxAttempts⟩, ?_⟩
  rintro i ⟨-, hstop⟩
  obtain ⟨e, hend, haccepts⟩ := hplan (i - 1)
  simp only [StopsAt, hend, haccepts, Bool.true_eq_false, false_or] at hstop
  exact Nat.le_of_eq hstop.symm

variable (plan) in
/-- A run ends when its last attempt does. -/
theorem exists_now_call (name : String) (w : World) (hvalid : policy.validate = .ok ()) :
    ∃ n, IsLeast {i | 1 ≤ i ∧ StopsAt policy plan i} n ∧ n ≤ policy.maxAttempts.toNat ∧
      (w.call (run name policy (Trial.operation plan) : Activity β (Except (Fault ε) γ))).2.now =
        w.now + offset policy plan (n - 1) + (plan (n - 1)).delay.sleepMillis := by
  obtain ⟨n, hleast, hle⟩ := exists_isLeast_stopsAt plan hvalid
  have hone := hleast.1.1
  have hmore : 0 + (n - 1) + 1 = n := by omega
  have hbudget : 0 + (policy.maxAttempts.toNat - 1) + 1 = policy.maxAttempts.toNat := by omega
  -- The loop from its first attempt on, with `n - 1` more to come.
  obtain ⟨t, s', hruns, -, hnow, -⟩ := runs_attempts (β := β) name
    (k := 0) (s := ⟨w, .empty⟩) rfl hbudget (hmore.symm ▸ hleast.1.2)
    (fun i hi hlt hi' => absurd (hleast.2 ⟨hi, hi'⟩) (by omega)) (rfl : w.now = w.now + 0)
  rw [Nat.zero_add] at hruns hnow
  have hrun : run name policy (Trial.operation plan : Activity β (Except ε γ)) =
      attempts name policy (Trial.operation plan) (policy.maxAttempts.toNat - 1) 0 := by
    simp only [run, hvalid]
  replace hruns : (run name policy (Trial.operation plan)).Runs ⟨w, .empty⟩ t _ s' := hrun ▸ hruns
  refine ⟨n, hleast, hle, ?_⟩
  rw [World.call, hruns.run_eq]
  exact hnow

/-- Without an initial delay nothing is waited for until the power of the multiplier is infinite.
From then on the longest delay passes before each attempt, as zero times infinity is no number. If
attempts take no time, these delays are what a run takes. -/
theorem waits_once_infinite (hvalid : policy.validate = .ok ())
    (hzero : policy.initialDelay = .zero) :
    ∃ first, 2 < first ∧
      (∀ k : UInt32, (policy.growth k).isFinite = decide (k.toNat < first)) ∧
      (∀ (e : Nat) (k : UInt32), policy.multiplier.le (.ofNat (2 ^ e)) = true →
        e * (k.toNat - 1) < 1024 → k.toNat < first) ∧
      (∀ (e : Nat) (k : UInt32), (Binary64.ofNat (2 ^ e)).le policy.multiplier = true →
        1024 ≤ e * (k.toNat - 1) → first ≤ k.toNat) ∧
      (∀ k : UInt32, policy.delayFor k = if k.toNat < first then .zero else policy.maxDelay) ∧
      ∀ (name : String) (plan : Nat → Trial ε γ) (w : World), (∀ i, (plan i).delay = .zero) →
        ∃ n, IsLeast {i | 1 ≤ i ∧ StopsAt policy plan i} n ∧ n ≤ policy.maxAttempts.toNat ∧
          (w.call (run name policy (Trial.operation plan) :
              Activity β (Except (Fault ε) γ))).2.now =
            w.now + (n - first) * policy.maxDelay.sleepMillis := by
  obtain ⟨first, htwo, hfinite⟩ := RetryPolicy.exists_first_infinite hvalid
  have hdelay : ∀ k : UInt32,
      policy.delayFor k = if k.toNat < first then .zero else policy.maxDelay := by
    intro k
    rw [RetryPolicy.delayFor_of_initialDelay_eq_zero hvalid hzero, hfinite]
    simp only [decide_eq_true_eq]
  refine ⟨first, htwo, hfinite, fun e k hle hk => ?_, fun e k hle hk => ?_, hdelay,
    fun name plan w hplan => ?_⟩
  · have hpower := RetryPolicy.growth_isFinite_of_multiplier_le hvalid hle hk
    rwa [hfinite, decide_eq_true_eq] at hpower
  · have hpower := RetryPolicy.growth_isInfinite_of_le_multiplier hle hk
    rw [hfinite, decide_eq_false_iff_not] at hpower
    exact Nat.le_of_not_lt hpower
  · -- The attempts take no time, and of the delays between them those from `first` on do.
    obtain ⟨n, hleast, hle, hnow⟩ := exists_now_call plan name w hvalid
    have hwaits : ∀ i ≤ n - 1, (policy.delayFor (.ofNat i)).sleepMillis =
        if i < first then 0 else policy.maxDelay.sleepMillis := by
      intro i hi
      rw [hdelay, toNat_ofNat_of_le (m := policy.maxAttempts) (by omega)]
      split
      · exact Duration.sleepMillis_zero
      · rfl
    refine ⟨n, hleast, hle, ?_⟩
    rw [hnow, hplan, Duration.sleepMillis_zero, offset_eq_mul (by omega) hplan hwaits,
      Nat.add_zero, Nat.sub_add_cancel hleast.1.1]

/-- With a multiplier of two the power is infinite from retry 1025 on, so that of 2000 attempts 975
are waited for. -/
theorem waits_once_infinite_doubling :
    let policy := { RetryPolicy.standard with maxAttempts := 2000, initialDelay := .zero }
    let plan : Nat → Trial OperationError Nat := fun _ => ⟨.zero, .returned (.error ⟨"down"⟩)⟩
    policy.validate = .ok () ∧ policy.initialDelay = .zero ∧ (∀ i, (plan i).delay = .zero) ∧
      (∀ k : UInt32, policy.delayFor k = if k.toNat < 1025 then .zero else .ofMillis 1000) ∧
      ((World.start true).call (run "api" policy (Trial.operation plan) :
        Activity Unit (Except (Fault OperationError) Nat))).2.now = 975 * 1000 := by
  intro policy plan
  have hvalid : policy.validate = .ok () := by decide +kernel
  obtain ⟨first, -, -, hbelow, habove, hdelay, hrun⟩ :=
    waits_once_infinite (β := Unit) (γ := Nat) (ε := OperationError) hvalid rfl
  have hlow : 1024 < first := hbelow 1 1024 (by decide +kernel) (by decide)
  have hhigh : first ≤ 1025 := habove 1 1025 (by decide +kernel) (by decide)
  obtain rfl : first = 1025 := by omega
  refine ⟨hvalid, rfl, fun _ => rfl, hdelay, ?_⟩
  obtain ⟨n, hleast, -, hnow⟩ := hrun "api" plan (World.start true) fun _ => rfl
  have hlast := isLeast_maxAttempts plan hvalid fun _ => ⟨⟨"down"⟩, rfl, rfl⟩
  rw [hnow, hleast.unique hlast]
  decide

/-- The longest delay passes before the last one of 1026 attempts, although the initial delay is
nothing. -/
theorem waits_without_initial_delay :
    let policy := { RetryPolicy.standard with maxAttempts := 1026, initialDelay := .zero }
    let plan : Nat → Trial OperationError Nat := fun _ => ⟨.zero, .returned (.error ⟨"down"⟩)⟩
    policy.validate = .ok () ∧ policy.initialDelay = .zero ∧ (∀ i, (plan i).delay = .zero) ∧
      policy.delayFor 1025 = policy.maxDelay ∧ policy.maxDelay ≠ .zero ∧
      (World.start true).now <
        ((World.start true).call (run "api" policy (Trial.operation plan) :
          Activity Unit (Except (Fault OperationError) Nat))).2.now := by
  intro policy plan
  have hvalid : policy.validate = .ok () := by decide +kernel
  have hdelay : policy.delayFor 1025 = policy.maxDelay := by decide +kernel
  refine ⟨hvalid, rfl, fun _ => rfl, hdelay, by decide, ?_⟩
  obtain ⟨n, hleast, -, hnow⟩ := exists_now_call (β := Unit) plan "api" (World.start true) hvalid
  have hlast := isLeast_maxAttempts plan hvalid fun _ => ⟨⟨"down"⟩, rfl, rfl⟩
  have hpause : 0 < (policy.delayFor (.ofNat (1024 + 1))).sleepMillis := by
    show 0 < (policy.delayFor 1025).sleepMillis
    rw [hdelay]
    decide
  have hlong : 0 < offset policy plan (1024 + 2 - 1) := by
    show 0 < offset policy plan (1024 + 1)
    rw [offset]
    omega
  -- Every attempt fails, so the last one is that of the budget.
  obtain rfl : n = 1024 + 2 := hleast.unique hlast
  rw [hnow]
  omega

end Retry

end Safeguard
