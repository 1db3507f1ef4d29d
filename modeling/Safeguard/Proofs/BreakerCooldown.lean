import Mathlib.Data.List.Forall2
import Safeguard.Proofs.BreakerInvariant

/-!
# The cool-down of a breaker

An open breaker refuses every call until the reset timeout has passed since the failure that opened
it, whatever outcomes arrive meanwhile, and nothing but its count of refusals changes. The first
call after that is a probe. The time that the breaker reports as left is the time after which a call
is admitted, to the nanosecond.

## Key results

- `perform_opened`: what an operation before the end of the cool-down does to an open breaker
- `run_early`: the same for a history
- `admits_advance_iff`: the reported time and the admission test agree
- `opened_until_cooled_down`: the life of an open breaker from the failure to the first probe
-/

namespace Safeguard.Breaker

variable {β : Type}

/-- The breaker is open since a failure at time `t`. -/
structure OpenedAt (t : Duration) (b : Breaker) : Prop where
  state : b.state = .opened
  lastFailure : b.lastFailure = some t

/-- Two breakers that have counted the same failures and successes; the calls may differ. -/
structure Alike (b b' : Breaker) : Prop where
  name : b'.name = b.name
  policy : b'.policy = b.policy
  state : b'.state = b.state
  failures : b'.failures = b.failures
  successes : b'.successes = b.successes
  lastFailure : b'.lastFailure = b.lastFailure

theorem Alike.refl (b : Breaker) : Alike b b := ⟨rfl, rfl, rfl, rfl, rfl, rfl⟩

/-- What two steps leave alone, both together leave alone. -/
theorem Alike.trans {b b' b'' : Breaker} (h : Alike b b') (h' : Alike b' b'') : Alike b b'' :=
  ⟨h'.name.trans h.name, h'.policy.trans h.policy, h'.state.trans h.state,
    h'.failures.trans h.failures, h'.successes.trans h.successes,
    h'.lastFailure.trans h.lastFailure⟩

/-- What counts nothing leaves an open breaker open since the same failure. -/
private theorem OpenedAt.of_alike {t : Duration} {b b' : Breaker} (h : b.OpenedAt t)
    (ha : Alike b b') :
    b'.OpenedAt t :=
  ⟨ha.state.trans h.state, ha.lastFailure.trans h.lastFailure⟩

/-! ## One moment -/

variable {t now : Duration} {b : Breaker}

/-- An open breaker admits a call once its reset timeout has passed since the failure. -/
theorem OpenedAt.admits_eq (h : b.OpenedAt t) :
    b.admits now = decide (b.policy.resetTimeout ≤ now - t) := by
  simp [admits, idle, h.state, h.lastFailure]

/-- It reports what is left of its reset timeout, and never less than nothing. -/
theorem OpenedAt.timeUntilHalfOpen_eq (h : b.OpenedAt t) :
    b.timeUntilHalfOpen now = some (b.policy.resetTimeout - (now - t)) := by
  simp [timeUntilHalfOpen, idle, h.state, h.lastFailure]

/-- The first call after the cool-down makes the breaker half-open. -/
private theorem OpenedAt.acquire_of_le (h : b.OpenedAt t) (hle : b.policy.resetTimeout ≤ now - t) :
    (b.acquire now).state = .halfOpen ∧ (b.acquire now).successes = 0 := by
  have hadmits : b.admits now = true := by rw [h.admits_eq]; exact decide_eq_true hle
  simp [acquire_eq, hadmits, h.state]

/-- After a span of time an open breaker admits a call if and only if the time that it reported as
left is not longer than that span. -/
theorem OpenedAt.admits_advance_iff (h : b.OpenedAt t) {c c' : Clock} {span : Duration}
    (hc : c.advance? span = some c') (hpast : t ≤ c.now) :
    b.admits c'.now = true ↔ b.policy.resetTimeout - (c.now - t) ≤ span := by
  -- A clock that is moved is moved by the whole span.
  have hsum : c'.now.nanos = c.now.nanos + span.nanos := by
    unfold Clock.advance? at hc
    split at hc
    · cases hc
      rfl
    · cases hc
  rw [h.admits_eq, decide_eq_true_eq]
  simp only [Duration.le_def, Duration.nanos_sub, hsum] at hpast ⊢
  omega

/-! ## Answers -/

/-- An attempt's answer tells whether it was admitted. -/
private theorem Operation.refusal_ne_admission (op : Operation β) (name : String) :
    op.refusal name ≠ op.admission := by
  cases op with
  | execute outcome | call outcome =>
    cases outcome <;> simp [Operation.refusal, Operation.admission, Outcome.ending]
  | _ => simp [Operation.refusal, Operation.admission]

/-- An attempt is answered like an admitted one if and only if the breaker admits it. -/
private theorem Session.perform_eq_admission_iff {s : Session} {op : Operation β}
    (hop : op.isAttempt = true) :
    (s.perform op).1 = op.admission ↔ s.breaker.admits s.clock.now = true := by
  cases hadm : s.breaker.admits s.clock.now with
  | true => simp [(perform_of_admits hop hadm).1]
  | false => simp [(perform_of_refuses hop hadm).1, Operation.refusal_ne_admission]

/-! ## Histories -/

namespace Session

/-- Nothing in a history resets the breaker, and no call asks for admission once the reset timeout
has passed since time `t`. -/
def Early (t : Duration) : Session → List (Operation β) → Prop
  | _, [] => True
  | s, op :: ops =>
    op.isReset = false ∧
      (op.isAttempt = true → s.clock.now - t < s.breaker.policy.resetTimeout) ∧
      Early t (s.perform op).2 ops

variable {s : Session}

/-- One operation before the end of the cool-down: calls are refused, outcomes are ignored, and the
breaker stays as it is. -/
theorem perform_opened (h : s.breaker.OpenedAt t) {op : Operation β} (hreset : op.isReset = false)
    (hearly : op.isAttempt = true → s.clock.now - t < s.breaker.policy.resetTimeout) :
    (op.isAttempt = true → (s.perform op).1 = op.refusal s.breaker.name) ∧
      (s.perform op).2.invocations = s.invocations ∧
      Alike s.breaker (s.perform op).2.breaker := by
  -- A direct attempt and a call are refused alike.
  have attempt (hop : op.isAttempt = true) :
      (op.isAttempt = true → (s.perform op).1 = op.refusal s.breaker.name) ∧
        (s.perform op).2.invocations = s.invocations ∧
        Alike s.breaker (s.perform op).2.breaker := by
    have hrefuses : s.breaker.admits s.clock.now = false := by
      have hlt := hearly hop
      rw [h.admits_eq, decide_eq_false_iff_not]
      rw [Duration.lt_def] at hlt
      rw [Duration.le_def]
      omega
    obtain ⟨hanswer, -, hbreaker, hinvocations⟩ := perform_of_refuses hop hrefuses
    refine ⟨fun _ => hanswer, hinvocations, ?_⟩
    rw [hbreaker, acquire_of_refuses hrefuses]
    exact ⟨rfl, rfl, rfl, rfl, rfl, rfl⟩
  cases op with
  | tryAcquire | execute outcome | call outcome => exact attempt rfl
  | recordSuccess =>
    -- Late outcomes are ignored.
    have hsame : s.breaker.succeed = s.breaker := by simp [succeed_eq, h.state]
    exact ⟨nofun, rfl, hsame.symm ▸ Alike.refl _⟩
  | recordFailure =>
    have hsame : s.breaker.fail s.clock.now = s.breaker := by simp [fail_eq, h.state]
    exact ⟨nofun, rfl, hsame.symm ▸ Alike.refl _⟩
  | reset => simp [Operation.isReset] at hreset
  | advance span =>
    rw [perform_advance]
    exact ⟨nofun, rfl, Alike.refl _⟩

/-- A history before the end of the cool-down: every call is refused without running anything, and
the breaker stays as it is. -/
theorem run_early (h : s.breaker.OpenedAt t) {ops : List (Operation β)} (hearly : s.Early t ops) :
    List.Forall₂ (fun op answer => op.isAttempt = true → answer = op.refusal s.breaker.name) ops
        (s.run ops).1 ∧
      (s.run ops).2.invocations = s.invocations ∧ Alike s.breaker (s.run ops).2.breaker := by
  induction ops generalizing s with
  | nil => exact ⟨.nil, rfl, Alike.refl _⟩
  | cons op ops ih =>
    -- The breaker after one operation is open since the same failure, under the same name.
    obtain ⟨hreset, hattempt, hrest⟩ := hearly
    obtain ⟨hanswer, hinvocations, halike⟩ := perform_opened h hreset hattempt
    obtain ⟨hanswers, hinvocations', halike'⟩ := ih (h.of_alike halike) hrest
    rw [halike.name] at hanswers
    exact ⟨.cons hanswer hanswers, hinvocations'.trans hinvocations, halike.trans halike'⟩

end Session

/-- From the failure that opened the breaker on, as long as no call comes after the cool-down and
nothing is reset, every call is refused with the breaker's name, no operation runs and the breaker
counts nothing. At each moment of that time the breaker reports exactly what is left of its reset
timeout, a call that comes after the cool-down is a probe, and one that comes after a further span
of time is admitted if and only if that span is at least what was reported. -/
theorem opened_until_cooled_down {name : String} {policy : BreakerPolicy} {b : Breaker}
    (hb : make name policy = .ok b) (before ops : List (Operation β)) {t : Duration}
    (hopen : ((Session.start b).run before).2.breaker.OpenedAt t)
    (hearly : ((Session.start b).run before).2.Early t ops) :
    let s := ((Session.start b).run before).2
    let s' := (s.run ops).2
    let probe := s'.breaker.acquire s'.clock.now
    List.Forall₂ (fun op answer => op.isAttempt = true → answer = op.refusal name) ops
        (s.run ops).1 ∧
      s'.invocations = s.invocations ∧
      s'.breaker.state = .opened ∧ s'.breaker.failures = s.breaker.failures ∧
      s'.breaker.successes = s.breaker.successes ∧ s'.breaker.lastFailure = some t ∧
      s'.breaker.timeUntilHalfOpen s'.clock.now =
        some (policy.resetTimeout - (s'.clock.now - t)) ∧
      (policy.resetTimeout ≤ s'.clock.now - t →
        probe.state = .halfOpen ∧ probe.successes = 0 ∧
        ∀ op : Operation β, op.isAttempt = true →
          (s'.perform op).1 = op.admission ∧
          (s'.perform op).2.invocations = s'.invocations + op.invocations ∧
          (s'.perform op).2.breaker = op.settled s'.clock.now probe) ∧
      ∀ (span : Duration) (clock : Clock), s'.clock.advance? span = some clock →
        ∀ op : Operation β, op.isAttempt = true →
          ((((s'.perform (.advance span : Operation β)).2).perform op).1 = op.admission ↔
            policy.resetTimeout - (s'.clock.now - t) ≤ span) := by
  intro s s' probe
  -- The two histories make one, so what holds of all reachable breakers holds of the last one.
  have hname : s.breaker.name = name := by
    obtain ⟨-, rfl⟩ := make_eq_ok_iff.1 hb
    exact (identity_run _ before).1
  have hrun : s' = ((Session.start b).run (before ++ ops)).2 := by rw [Session.run_append]
  obtain ⟨hpolicy, hcounted, -⟩ := wellCounted_run_make hb (before ++ ops)
  rw [← hrun] at hpolicy hcounted
  obtain ⟨hanswers, hinvocations, halike⟩ := Session.run_early hopen hearly
  have hopen' : s'.breaker.OpenedAt t := hopen.of_alike halike
  -- The failure that opened the breaker is in the past of its clock.
  have hpast : t ≤ s'.clock.now := by
    simp only [WellCounted, hopen'.state] at hcounted
    obtain ⟨t', ht', hle⟩ := hcounted.2.2
    rw [hopen'.lastFailure, Option.some.injEq] at ht'
    exact ht' ▸ hle
  refine ⟨hname ▸ hanswers, hinvocations, hopen'.state, halike.failures, halike.successes,
    hopen'.lastFailure, hpolicy ▸ hopen'.timeUntilHalfOpen_eq, fun hcool => ?_,
    fun span clock hclock op hop => ?_⟩
  -- After the cool-down the next attempt is the first probe.
  · have hadmits : s'.breaker.admits s'.clock.now = true := by
      rw [hopen'.admits_eq, hpolicy]
      exact decide_eq_true hcool
    obtain ⟨hstate, hsuccesses⟩ := hopen'.acquire_of_le (hpolicy ▸ hcool)
    refine ⟨hstate, hsuccesses, fun op hop => ?_⟩
    obtain ⟨hanswer, -, hbreaker, hruns⟩ := Session.perform_of_admits hop hadmits
    exact ⟨hanswer, hruns, hbreaker⟩
  -- The clock alone moves between the report and the attempt.
  · rw [Session.perform_eq_admission_iff hop, Session.perform_advance, hclock, ← hpolicy]
    exact hopen'.admits_advance_iff hclock hpast

/-- A breaker that two failures open for a minute: after 59 seconds a call is refused and one second
is left. -/
theorem opened_until_cooled_down_minute :
    make "db" ⟨2, .ofSeconds 60, 1⟩ = .ok (fresh "db" ⟨2, .ofSeconds 60, 1⟩) ∧
      let s := ((Session.start (fresh "db" ⟨2, .ofSeconds 60, 1⟩)).run
        [.advance (.ofSeconds 5), .execute (.error ⟨"down"⟩), (.recordFailure : Operation Unit)]).2
      let s' := (s.run
        [.advance (.ofSeconds 59), .recordSuccess, (.call (.value ()) : Operation Unit)]).2
      s.breaker.OpenedAt (.ofSeconds 5) ∧
        s.Early (.ofSeconds 5)
          [.advance (.ofSeconds 59), .recordSuccess, (.call (.value ()) : Operation Unit)] ∧
        s'.invocations = s.invocations ∧ s'.breaker.state = .opened ∧
        s'.breaker.timeUntilHalfOpen s'.clock.now = some (.ofSeconds 1) := by
  have hmake : make "db" ⟨2, .ofSeconds 60, 1⟩ = .ok (fresh "db" ⟨2, .ofSeconds 60, 1⟩) := rfl
  have hopen : ((Session.start (fresh "db" ⟨2, .ofSeconds 60, 1⟩)).run
      [.advance (.ofSeconds 5), .execute (.error ⟨"down"⟩),
        (.recordFailure : Operation Unit)]).2.breaker.OpenedAt (.ofSeconds 5) := ⟨rfl, rfl⟩
  have hearly : ((Session.start (fresh "db" ⟨2, .ofSeconds 60, 1⟩)).run
      [.advance (.ofSeconds 5), .execute (.error ⟨"down"⟩),
        (.recordFailure : Operation Unit)]).2.Early (.ofSeconds 5)
      [.advance (.ofSeconds 59), .recordSuccess, (.call (.value ()) : Operation Unit)] :=
    ⟨rfl, nofun, rfl, nofun, rfl, fun _ => by decide, trivial⟩
  obtain ⟨-, hinvocations, hstate, -, -, -, hleft, -⟩ :=
    opened_until_cooled_down hmake _ _ hopen hearly
  exact ⟨hmake, hopen, hearly, hinvocations, hstate, hleft⟩

end Safeguard.Breaker
