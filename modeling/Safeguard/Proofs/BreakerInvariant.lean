import Safeguard.Proofs.BreakerSession

/-!
# The counters of a breaker

`WellCounted` says what the counters of a breaker are in each of its states. A new breaker is well
counted, and each move of the breaker keeps it so: a call that asks for admission, an outcome, a
reset, and time that passes. So it holds after every history, whatever the order of its operations,
and no counter ever comes to the end of its range.

## Key results

- `wellCounted_acquire`, `wellCounted_settle`, `wellCounted_reset`, `WellCounted.mono`: the moves
- `WellCounted.run`: every history keeps a breaker well counted
- `wellCounted_run_make`: the counters after any history of a new breaker, and that no addition
  leaves its range
-/

namespace Safeguard

/-- A policy is in order if both of its thresholds are positive. -/
theorem BreakerPolicy.validate_eq_ok_iff {p : BreakerPolicy} :
    p.validate = .ok () ↔ 0 < p.failureThreshold ∧ 0 < p.successThreshold := by
  simp only [validate, UInt32.pos_iff_ne_zero]
  split
  · next h => simp [h]
  · next h => split <;> simp_all

namespace Breaker

/-- A new breaker is one with a policy that is in order, closed, with nothing counted. -/
theorem make_eq_ok_iff {name : String} {policy : BreakerPolicy} {b : Breaker} :
    make name policy = .ok b ↔ policy.validate = .ok () ∧ b = fresh name policy := by
  cases h : policy.validate with
  | error e => simp [make, h, bind, Except.bind]
  | ok u => simp [make, h, bind, Except.bind, pure, Except.pure, eq_comm]

/-! ## Counting -/

/-- A word below another one has room for one more. -/
theorem toNat_add_one_of_lt {m n : UInt32} (h : m < n) : (m + 1).toNat = m.toNat + 1 := by
  have hlt := UInt32.lt_iff_toNat_lt.1 h
  have hn := n.toNat_lt
  rw [UInt32.toNat_add, UInt32.toNat_one]
  omega

/-- A count of failures below a threshold is not at its end. -/
theorem countFailure_of_lt {m n : UInt32} (h : m < n) : countFailure m = m + 1 := by
  have hadd := toNat_add_one_of_lt h
  refine if_neg fun hzero => ?_
  rw [hzero, UInt32.toNat_zero] at hadd
  omega

/-- The breaker failed at a time that has come. -/
def HasFailedBy (now : Duration) (b : Breaker) : Prop := ∃ t, b.lastFailure = some t ∧ t ≤ now

/-- What a breaker has counted at time `now`, state by state. -/
def WellCounted (now : Duration) (b : Breaker) : Prop :=
  match b.state with
  | .closed => b.failures < b.policy.failureThreshold ∧ b.successes = 0
  | .opened => b.failures = b.policy.failureThreshold ∧ b.successes = 0 ∧ b.HasFailedBy now
  | .halfOpen =>
    b.failures = b.policy.failureThreshold ∧ b.successes < b.policy.successThreshold ∧
      b.HasFailedBy now

variable {b : Breaker} {now : Duration}

/-- Time that passes keeps a breaker well counted. -/
theorem WellCounted.mono (h : b.WellCounted now) {later : Duration} (hle : now ≤ later) :
    b.WellCounted later := by
  -- Only the time of the failure that opened the breaker is compared with the clock.
  have failed : b.HasFailedBy now → b.HasFailedBy later := fun ⟨t, ht, htn⟩ =>
    ⟨t, ht, Nat.le_trans htn hle⟩
  unfold WellCounted at h ⊢
  split at h
  · exact h
  · exact ⟨h.1, h.2.1, failed h.2.2⟩
  · exact ⟨h.1, h.2.1, failed h.2.2⟩

/-- A call that asks for admission keeps a breaker well counted. -/
theorem wellCounted_acquire (hvalid : b.policy.validate = .ok ()) (h : b.WellCounted now) :
    (b.acquire now).WellCounted now := by
  obtain ⟨-, hsuccess⟩ := BreakerPolicy.validate_eq_ok_iff.1 hvalid
  rw [acquire_eq]
  split
  · cases hs : b.state with
    | closed | halfOpen =>
      simp only [WellCounted, hs] at h ⊢
      exact h
    | opened =>
      -- The first probe: no success is counted yet, and one at least is needed.
      simp only [WellCounted, hs] at h
      exact ⟨h.1, hsuccess, h.2.2⟩
  · exact h

/-- A success keeps a breaker well counted. -/
private theorem wellCounted_succeed (hvalid : b.policy.validate = .ok ()) (h : b.WellCounted now) :
    b.succeed.WellCounted now := by
  obtain ⟨hfailure, -⟩ := BreakerPolicy.validate_eq_ok_iff.1 hvalid
  rw [succeed_eq]
  split
  · next hs =>
    simp only [WellCounted, hs] at h ⊢
    exact ⟨hfailure, h.2⟩
  · next hs =>
    simp only [WellCounted, hs] at h
    split
    · exact ⟨hfailure, rfl⟩
    · next hlt =>
      -- One success more, and still too few to close the breaker.
      simp only [WellCounted, hs]
      exact ⟨h.1, UInt32.not_le.1 hlt, h.2.2⟩
  · exact h

/-- A failure keeps a breaker well counted. -/
private theorem wellCounted_fail (h : b.WellCounted now) : (b.fail now).WellCounted now := by
  have failed : ∃ t, some now = some t ∧ t ≤ now := ⟨now, rfl, Nat.le_refl _⟩
  rw [fail_eq]
  split
  · next hs =>
    simp only [WellCounted, hs] at h
    have hcount := countFailure_of_lt h.1
    split
    · next hle =>
      -- The count grows by one from below the threshold, so it meets the threshold exactly.
      have hge : countFailure b.failures ≤ b.policy.failureThreshold := by
        have hlt := UInt32.lt_iff_toNat_lt.1 h.1
        rw [hcount, UInt32.le_iff_toNat_le, toNat_add_one_of_lt h.1]
        omega
      exact ⟨UInt32.le_antisymm hge hle, h.2, failed⟩
    · next hlt =>
      simp only [WellCounted, hs]
      exact ⟨UInt32.not_le.1 hlt, h.2⟩
  · next hs =>
    -- A failed probe: the count of failures stands at the threshold from the time before.
    simp only [WellCounted, hs] at h
    exact ⟨h.1, rfl, failed⟩
  · exact h

/-- An outcome keeps a breaker well counted, whichever state it finds. -/
theorem wellCounted_settle (hvalid : b.policy.validate = .ok ()) (h : b.WellCounted now)
    (success : Bool) : (b.settle now success).WellCounted now := by
  cases success with
  | true => exact wellCounted_succeed hvalid h
  | false => exact wellCounted_fail h

/-- A reset makes a breaker well counted, whatever it was before. -/
theorem wellCounted_reset (hvalid : b.policy.validate = .ok ()) : b.reset.WellCounted now :=
  ⟨(BreakerPolicy.validate_eq_ok_iff.1 hvalid).1, rfl⟩

/-- A new breaker has counted nothing, and its threshold is above that. -/
theorem wellCounted_fresh {name : String} {policy : BreakerPolicy}
    (hvalid : policy.validate = .ok ()) : (fresh name policy).WellCounted now :=
  ⟨(BreakerPolicy.validate_eq_ok_iff.1 hvalid).1, rfl⟩

/-! ## Histories -/

end Breaker

/-- A clock does not go back. -/
theorem Clock.le_of_advance? {c c' : Clock} {span : Duration} (h : c.advance? span = some c') :
    c.now ≤ c'.now := by
  unfold advance? at h
  split at h
  · cases h
    exact Nat.le_add_right _ _
  · cases h

namespace Breaker

variable {β : Type}

/-- A history keeps the name and the policy of a breaker. -/
theorem identity_run (s : Session) (ops : List (Operation β)) :
    (s.run ops).2.breaker.name = s.breaker.name ∧
      (s.run ops).2.breaker.policy = s.breaker.policy := by
  refine Session.run_keeps
    (P := fun _ b => b.name = s.breaker.name ∧ b.policy = s.breaker.policy)
    -- Asked, told, reset, and the clock: none of the four touches either.
    ?_ ?_ ?_ ?_ s ops ⟨rfl, rfl⟩
  · intro c b h
    simpa using h
  · intro c b success h
    simpa using h
  · intro c b h
    exact h
  · intro c c' b span _ h
    exact h

/-- A history keeps a breaker well counted. -/
theorem WellCounted.run {s : Session} (hvalid : s.breaker.policy.validate = .ok ())
    (h : s.breaker.WellCounted s.clock.now) (ops : List (Operation β)) :
    (s.run ops).2.breaker.WellCounted (s.run ops).2.clock.now := by
  refine (Session.run_keeps
    (P := fun c b => b.policy.validate = .ok () ∧ b.WellCounted c.now)
    ?_ ?_ ?_ ?_ s ops ⟨hvalid, h⟩).2
  -- What is kept is that the policy is in order too: each move needs it again.
  · intro c b ⟨hv, hb⟩
    exact ⟨by rwa [policy_acquire], wellCounted_acquire hv hb⟩
  · intro c b success ⟨hv, hb⟩
    exact ⟨by rwa [policy_settle], wellCounted_settle hv hb success⟩
  · intro c b ⟨hv, _⟩
    exact ⟨hv, wellCounted_reset hv⟩
  · intro c c' b span hc ⟨hv, hb⟩
    exact ⟨hv, hb.mono (Clock.le_of_advance? hc)⟩

/-- After any history a breaker has counted what its state says. So a success of the half-open
breaker and a failure of the closed one are counted without leaving the range of a word, and an open
breaker knows the time of the failure that opened it. -/
theorem wellCounted_run_make {name : String} {policy : BreakerPolicy} {b : Breaker}
    (hb : make name policy = .ok b) (ops : List (Operation β)) :
    let s := ((Session.start b).run ops).2
    s.breaker.policy = policy ∧ s.breaker.WellCounted s.clock.now ∧
      (s.breaker.state = .halfOpen →
        (s.breaker.successes + 1).toNat = s.breaker.successes.toNat + 1) ∧
      (s.breaker.state = .closed →
        (countFailure s.breaker.failures).toNat = s.breaker.failures.toNat + 1) ∧
      (s.breaker.state = .opened →
        ∃ t, s.breaker.lastFailure = some t ∧ s.breaker.idle s.clock.now = s.clock.now - t) := by
  intro s
  obtain ⟨hvalid, rfl⟩ := make_eq_ok_iff.1 hb
  -- The invariant holds of a new breaker at any time.
  have hcounted : s.breaker.WellCounted s.clock.now :=
    WellCounted.run (s := Session.start (fresh name policy)) hvalid (wellCounted_fresh hvalid) ops
  refine ⟨(identity_run _ ops).2, hcounted, fun hs => ?_, fun hs => ?_, fun hs => ?_⟩
  · simp only [WellCounted, hs] at hcounted
    exact toNat_add_one_of_lt hcounted.2.1
  · simp only [WellCounted, hs] at hcounted
    rw [countFailure_of_lt hcounted.1]
    exact toNat_add_one_of_lt hcounted.1
  · simp only [WellCounted, hs] at hcounted
    obtain ⟨t, ht, -⟩ := hcounted.2.2
    exact ⟨t, ht, by simp [idle, ht]⟩

/-- A breaker that has opened, cooled down and seen one of the two successes that close it. -/
theorem wellCounted_run_make_probed :
    make "db" ⟨2, .ofSeconds 60, 2⟩ = .ok (fresh "db" ⟨2, .ofSeconds 60, 2⟩) ∧
      let s := ((Session.start (fresh "db" ⟨2, .ofSeconds 60, 2⟩)).run
        [.recordFailure, .recordSuccess, .call (.error ⟨"down"⟩), .execute (.error ⟨"down"⟩),
          .advance (.ofSeconds 60), .execute (.value ()), .tryAcquire]).2
      s.breaker.state = .halfOpen ∧ s.breaker.WellCounted s.clock.now ∧
        (s.breaker.successes + 1).toNat = s.breaker.successes.toNat + 1 := by
  obtain ⟨-, hcounted, hsuccesses, -⟩ := wellCounted_run_make
    (rfl : make "db" ⟨2, .ofSeconds 60, 2⟩ = .ok (fresh "db" ⟨2, .ofSeconds 60, 2⟩))
    [.recordFailure, .recordSuccess, .call (.error ⟨"down"⟩), .execute (.error ⟨"down"⟩),
      .advance (.ofSeconds 60), .execute (.value ()), .tryAcquire]
  exact ⟨rfl, rfl, hcounted, hsuccesses rfl⟩

end Breaker

end Safeguard
