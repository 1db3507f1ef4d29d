import Safeguard.Proofs.BreakerCooldown
import Safeguard.Proofs.BreakerHistory

/-!
# How a breaker recovers

Whatever was done to a breaker, it closes again when its reset timeout has passed and enough calls
succeed in a row. `successesDue` counts how many are still needed. The cool-down lets the first call
in, and each call that succeeds takes one off this number and leaves a breaker that is not open, so
that the next one is let in as well.

## Key results

- `admits_of_cooled`: after the reset timeout a breaker in any state admits a call
- `recovering_succeed_acquire`: one call that succeeds
- `run_successes`: a row of calls that succeed
- `recovers_after_successes`: from any reachable state to the closed breaker that counts no failure
-/

namespace Safeguard.Breaker

variable {β : Type}

/-- A call whose operation succeeds with a value. -/
inductive Operation.Brings : Operation β → β → Prop
  | execute (v : β) : Brings (.execute (.value v)) v
  | call (v : β) : Brings (.call (.value v)) v

/-- How many successes in a row close the breaker, if all of them are let in. -/
def successesDue (b : Breaker) : Nat :=
  match b.state with
  | .closed => 0
  | .halfOpen => b.policy.successThreshold.toNat - b.successes.toNat
  | .opened => b.policy.successThreshold.toNat

/-- The breaker lets calls in, and counts no failure if it is closed. -/
def Recovering (b : Breaker) : Prop := b.state ≠ .opened ∧ (b.state = .closed → b.failures = 0)

/-! ## One call -/

variable {b : Breaker} {now : Duration}

/-- Only an open breaker refuses. -/
private theorem admits_of_ne_opened (h : b.state ≠ .opened) (now : Duration) :
    b.admits now = true := by
  cases hs : b.state with
  | closed | halfOpen => simp [admits, hs]
  | opened => exact absurd hs h

/-- When its reset timeout has passed, a breaker admits a call in whatever state it is: the failure
that opened it is no later than the beginning of that time. -/
theorem admits_of_cooled {c c' : Clock} {span : Duration} (h : b.WellCounted c.now)
    (hspan : b.policy.resetTimeout ≤ span) (hclock : c.advance? span = some c') :
    b.admits c'.now = true := by
  cases hs : b.state with
  | closed | halfOpen => exact admits_of_ne_opened (by simp [hs]) _
  | opened =>
    simp only [WellCounted, hs] at h
    obtain ⟨t, ht, hpast⟩ := h.2.2
    have hopen : b.OpenedAt t := ⟨hs, ht⟩
    -- What is left of the reset timeout is at most all of it.
    refine (hopen.admits_advance_iff hclock hpast).2 ?_
    rw [Duration.le_def] at hspan ⊢
    rw [Duration.nanos_sub]
    omega

/-- A success of the half-open breaker is one of those that are due. -/
private theorem recovering_succeed_of_halfOpen (hs : b.state = .halfOpen)
    (hlt : b.successes < b.policy.successThreshold) :
    b.succeed.Recovering ∧ b.succeed.successesDue = b.successesDue - 1 := by
  have hadd := toNat_add_one_of_lt hlt
  simp only [succeed_eq, hs]
  split
  · next hle =>
    -- The last one: one success is due, and the breaker closes with nothing counted.
    rw [UInt32.le_iff_toNat_le, hadd] at hle
    refine ⟨⟨by simp, fun _ => rfl⟩, ?_⟩
    simp only [successesDue, hs]
    omega
  · refine ⟨⟨by simp, by simp⟩, ?_⟩
    simp only [successesDue, hs, hadd]
    omega

/-- A call that is let in and succeeds is one of those that are due. -/
theorem recovering_succeed_acquire (hvalid : b.policy.validate = .ok ()) (h : b.WellCounted now)
    (hadmits : b.admits now = true) :
    (b.acquire now).succeed.Recovering ∧
      (b.acquire now).succeed.successesDue = b.successesDue - 1 := by
  cases hs : b.state with
  | closed =>
    rw [acquire_of_ne_opened (by simp [hs])]
    simp [Recovering, successesDue, succeed_eq, hs]
  | halfOpen =>
    rw [acquire_of_ne_opened (by simp [hs])]
    simp only [WellCounted, hs] at h
    exact recovering_succeed_of_halfOpen (b := { b with admitted := b.admitted + 1 }) hs h.2.1
  | opened =>
    -- The first probe: none of the successes that are due has been counted.
    have hdue : (b.acquire now).successesDue = b.successesDue := by
      simp [acquire_of_opened hs hadmits, successesDue, hs]
    rw [← hdue]
    refine recovering_succeed_of_halfOpen (by rw [acquire_of_opened hs hadmits]) ?_
    rw [policy_acquire, acquire_of_opened hs hadmits]
    exact (BreakerPolicy.validate_eq_ok_iff.1 hvalid).2

/-- A breaker of which no success is due has recovered. -/
theorem Recovering.closed (hrecovering : b.Recovering) (h : b.WellCounted now)
    (hdue : b.successesDue = 0) : b.state = .closed ∧ b.failures = 0 ∧ b.successes = 0 := by
  cases hs : b.state with
  | closed =>
    simp only [WellCounted, hs] at h
    exact ⟨rfl, hrecovering.2 hs, h.2⟩
  | opened => exact absurd hs hrecovering.1
  | halfOpen =>
    simp only [WellCounted, hs] at h
    simp only [successesDue, hs] at hdue
    -- A half-open breaker has counted fewer successes than it needs, so at least one is due.
    have hlt := UInt32.lt_iff_toNat_lt.1 h.2.1
    omega

/-! ## A row of calls -/

namespace Session

variable {s : Session}

/-- One call that is let in and succeeds, whichever way it is made. -/
private theorem perform_brings {op : Operation β} {v : β} (hop : op.Brings v)
    (hadmits : s.breaker.admits s.clock.now = true) :
    (s.perform op).1 = .ended (.returned (.ok v)) ∧
      (s.perform op).2.clock = s.clock ∧
      (s.perform op).2.breaker = (s.breaker.acquire s.clock.now).succeed ∧
      (s.perform op).2.invocations = s.invocations + 1 := by
  cases hop with
  | execute v | call v => exact perform_of_admits rfl hadmits

/-- A row of calls that succeed, of which the first is let in: all of them are, and each is one of
those that are due. -/
theorem run_successes (hvalid : s.breaker.policy.validate = .ok ())
    (h : s.breaker.WellCounted s.clock.now) (hadmits : s.breaker.admits s.clock.now = true)
    {calls : List (Operation β)} {values : List β}
    (hcalls : List.Forall₂ Operation.Brings calls values) :
    (s.run calls).1 = values.map (fun v => .ended (.returned (.ok v))) ∧
      (s.run calls).2.invocations = s.invocations + calls.length ∧
      (s.run calls).2.breaker.successesDue = s.breaker.successesDue - calls.length ∧
      (calls ≠ [] → (s.run calls).2.breaker.Recovering) := by
  -- Induction on the calls: what each one leaves lets the next one in.
  induction hcalls generalizing s with
  | nil => exact ⟨rfl, rfl, rfl, absurd rfl⟩
  | @cons op v calls values hop hcalls ih =>
    obtain ⟨hanswer, hclock, hbreaker, hinvocations⟩ := perform_brings hop hadmits
    obtain ⟨hrecovering, hdue⟩ := recovering_succeed_acquire hvalid h hadmits
    rw [← hbreaker] at hrecovering hdue
    -- The breaker after the call is not open, so it lets the next one in.
    have hcounted : (s.perform op).2.breaker.WellCounted (s.perform op).2.clock.now :=
      h.run hvalid [op]
    obtain ⟨hanswers, hinvocations', hdue', hrecovering'⟩ := ih
      (by rwa [hbreaker, policy_succeed, policy_acquire]) hcounted
      (admits_of_ne_opened hrecovering.1 _)
    refine ⟨by simp [hanswer, hanswers], ?_, ?_, fun _ => ?_⟩
    · rw [run_cons, hinvocations', hinvocations, List.length_cons]
      omega
    · rw [run_cons, hdue', hdue, List.length_cons]
      omega
    · by_cases hrest : calls = []
      · subst hrest
        exact hrecovering
      · exact hrecovering' hrest

end Session

/-- A breaker in any state that it can come to recovers: when the clock moves by the reset timeout
or more, and then as many calls as the success threshold, or more, succeed in a row, each of them is
let in and brings its value, and in the end the breaker is closed with no failure and no success
counted. -/
theorem recovers_after_successes {name : String} {policy : BreakerPolicy} {b : Breaker}
    (hb : make name policy = .ok b) (before : List (Operation β)) {span : Duration} {clock : Clock}
    (hspan : policy.resetTimeout ≤ span)
    (hclock : ((Session.start b).run before).2.clock.advance? span = some clock)
    {calls : List (Operation β)} {values : List β}
    (hcalls : List.Forall₂ Operation.Brings calls values)
    (henough : policy.successThreshold.toNat ≤ calls.length) :
    let s := ((Session.start b).run before).2
    let r := s.run (.advance span :: calls)
    r.1 = .done :: values.map (fun v => .ended (.returned (.ok v))) ∧
      r.2.invocations = s.invocations + calls.length ∧
      r.2.breaker.state = .closed ∧ r.2.breaker.failures = 0 ∧ r.2.breaker.successes = 0 := by
  intro s r
  obtain ⟨hpolicy, hcounted, -⟩ := wellCounted_run_make hb before
  obtain ⟨hvalid, -⟩ := make_eq_ok_iff.1 hb
  have hlater : (s.perform (.advance span : Operation β)) = (.done, { s with clock }) := by
    simp only [Session.perform]
    rw [hclock]
  have hmono : s.breaker.WellCounted clock.now := hcounted.mono (Clock.le_of_advance? hclock)
  have hvalid' : s.breaker.policy.validate = .ok () := hpolicy ▸ hvalid
  obtain ⟨hanswers, hinvocations, hdue, hrecovering⟩ :=
    Session.run_successes (s := { s with clock }) hvalid' hmono
      (admits_of_cooled hcounted (hpolicy ▸ hspan) hclock) hcalls
  have hr : r = (.done :: (Session.run { s with clock } calls).1,
      (Session.run { s with clock } calls).2) := by
    show s.run (.advance span :: calls) = _
    rw [Session.run_cons, hlater]
  -- At least one call is made, and none of the successes is due after the last one.
  have hpos : 0 < policy.successThreshold.toNat :=
    UInt32.lt_iff_toNat_lt.1 (BreakerPolicy.validate_eq_ok_iff.1 hvalid).2
  have hnone : (Session.run { s with clock } calls).2.breaker.successesDue = 0 := by
    have hle : s.breaker.successesDue ≤ policy.successThreshold.toNat := by
      unfold successesDue
      rw [hpolicy]
      split <;> omega
    rw [hdue]
    show s.breaker.successesDue - _ = 0
    omega
  have hclosed := (hrecovering (List.ne_nil_of_length_pos (by omega))).closed
    (hmono.run (s := { s with clock }) hvalid' calls) hnone
  rw [hr]
  exact ⟨congrArg (Answer.done :: ·) hanswers, hinvocations, hclosed⟩

/-- A breaker that needs two successes, left half-open by a probe that panicked, with one late
success counted: one call closes it, and the next one runs as usual. -/
theorem recovers_after_successes_panicked :
    let before : List (Operation Nat) :=
      [.recordFailure, .advance (.ofSeconds 10), .execute (.panic "probe"), .recordSuccess]
    let calls : List (Operation Nat) := [.execute (.value 1), .call (.value 2)]
    let s := ((Session.start (fresh "db" ⟨1, .ofSeconds 10, 2⟩)).run before).2
    let r := s.run (.advance (.ofSeconds 10) :: calls)
    make "db" ⟨1, .ofSeconds 10, 2⟩ = .ok (fresh "db" ⟨1, .ofSeconds 10, 2⟩) ∧
      s.breaker.state = .halfOpen ∧ s.breaker.successes = 1 ∧
      s.clock.advance? (.ofSeconds 10) = some ⟨.ofSeconds 20⟩ ∧
      List.Forall₂ Operation.Brings calls [1, 2] ∧
      r.1 = [.done, .ended (.returned (.ok 1)), .ended (.returned (.ok 2))] ∧
      r.2.breaker.state = .closed ∧ r.2.breaker.failures = 0 ∧ r.2.breaker.successes = 0 := by
  intro before calls
  have hb : make "db" ⟨1, .ofSeconds 10, 2⟩ = .ok (fresh "db" ⟨1, .ofSeconds 10, 2⟩) := rfl
  have hnow : ((Session.start (fresh "db" ⟨1, .ofSeconds 10, 2⟩)).run before).2.clock =
      ⟨.ofSeconds 10⟩ := rfl
  have hclock : Clock.advance? ⟨.ofSeconds 10⟩ (.ofSeconds 10) = some ⟨.ofSeconds 20⟩ := by
    decide +kernel
  have hspan : Duration.ofSeconds 10 ≤ .ofSeconds 10 := Nat.le_refl _
  have hcalls : List.Forall₂ Operation.Brings calls [1, 2] :=
    .cons (.execute 1) (.cons (.call 2) .nil)
  obtain ⟨hanswers, -, hclosed⟩ := recovers_after_successes hb before hspan (hnow ▸ hclock) hcalls
    (Nat.le_refl 2)
  exact ⟨hb, rfl, rfl, hnow ▸ hclock, hcalls, hanswers, hclosed⟩

end Safeguard.Breaker
