import Safeguard.Proofs.BreakerHistory

/-!
# A breaker that closes is as good as new

A breaker that closes after its probes keeps the time of the failure that opened it, and every
breaker keeps its totals. Two breakers are twins if they agree in all the rest: their totals are a
constant apart, and their times of failure are the same or, while both are closed, the ones they had
at first. A closed breaker reads no time of failure, and writes one when it opens, so twins give the
same answers and stay twins, operation by operation. A breaker that was just closed or cleared by a
success is the twin of a new one.

## Key results

- `Twins.acquire`, `Twins.settle`, `Twins.reset`: the moves of a breaker
- `Session.twins_perform`, `Session.twins_run`: one operation and a history
- `Session.failures_of_renews`: what closes a breaker or succeeds while it is closed clears it
- `as_good_as_new`: a renewed breaker next to a new one, and next to one with another time of
  failure
-/

namespace Safeguard.Breaker

variable {β : Type}

/-! ## Twins -/

/-- How two breakers that behave alike may differ. -/
structure Gap where
  /-- What the first counts more than the second of the calls admitted, modulo `2^64`. -/
  admitted : UInt64
  /-- What the first counts more than the second of the calls refused, modulo `2^64`. -/
  refused : UInt64
  /-- The time of failure that the first has from before. -/
  stale : Option Duration
  /-- The time of failure that the second has from before. -/
  stale' : Option Duration

/-- Two breakers that behave alike: they agree but for their totals, which are a constant apart, and
but for their times of failure as long as no failure has opened them. -/
structure Twins (gap : Gap) (b b' : Breaker) : Prop where
  rest : b =
    { b' with
      admitted := b'.admitted + gap.admitted
      refused := b'.refused + gap.refused
      lastFailure := b.lastFailure }
  lastFailure : b.lastFailure = b'.lastFailure ∨
    b'.state = .closed ∧ b.lastFailure = gap.stale ∧ b'.lastFailure = gap.stale'

/-- A total that grows stays as far ahead. -/
private theorem total_add_one (n ahead : UInt64) : n + ahead + 1 = n + 1 + ahead := by
  rw [UInt64.add_assoc, UInt64.add_comm ahead, UInt64.add_assoc]

namespace Twins

variable {gap : Gap} {b b' : Breaker}

theorem name_eq (h : Twins gap b b') : b.name = b'.name := by rw [h.rest]

private theorem state_eq (h : Twins gap b b') : b.state = b'.state := by rw [h.rest]

private theorem failures_eq (h : Twins gap b b') : b.failures = b'.failures := by rw [h.rest]

private theorem successes_eq (h : Twins gap b b') : b.successes = b'.successes := by rw [h.rest]

/-- The totals are as far apart as they were at first. -/
theorem admitted_eq (h : Twins gap b b') : b.admitted = b'.admitted + gap.admitted := by
  rw [h.rest]

private theorem refused_eq (h : Twins gap b b') :
    b.refused = b'.refused + gap.refused := by rw [h.rest]

/-- Two breakers that agree in all that is read while they are open. -/
private theorem idle_eq (h : Twins gap b b') (hopen : b'.state = .opened) (now : Duration) :
    b.idle now = b'.idle now := by
  have hsame : b.lastFailure = b'.lastFailure := by
    rcases h.lastFailure with hsame | ⟨hclosed, -⟩
    · exact hsame
    · rw [hopen] at hclosed
      cases hclosed
  unfold idle
  rw [hsame, h.rest]

/-- Only an open breaker reads its time of failure, and by then twins have the same one. -/
theorem admits_eq (h : Twins gap b b') (now : Duration) : b.admits now = b'.admits now := by
  unfold admits
  rw [h.state_eq]
  cases hs : b'.state with
  | closed | halfOpen => rfl
  | opened =>
    show decide (b.policy.resetTimeout ≤ b.idle now) = decide (b'.policy.resetTimeout ≤ b'.idle now)
    rw [h.idle_eq hs, h.rest]

/-- The time left is read off the same failure. -/
theorem timeUntilHalfOpen_eq (h : Twins gap b b') (now : Duration) :
    b.timeUntilHalfOpen now = b'.timeUntilHalfOpen now := by
  unfold timeUntilHalfOpen
  rw [h.state_eq]
  cases hs : b'.state with
  | closed | halfOpen => rfl
  | opened =>
    show some (b.policy.resetTimeout - b.idle now) = some (b'.policy.resetTimeout - b'.idle now)
    rw [h.idle_eq hs, h.rest]

/-- Twins tell the same of the moves that they make together. -/
private theorem crossing_eq {after after' : Breaker} (h : Twins gap b b')
    (ha : Twins gap after after') :
    b.crossing after = b'.crossing after' := by
  unfold crossing moved nameField
  rw [h.state_eq, h.name_eq, ha.state_eq, ha.failures_eq]

/-- A reset tells the same of twins: it depends on their state and their name. -/
private theorem resetNotices_eq (h : Twins gap b b') : b.resetNotices = b'.resetNotices := by
  unfold resetNotices nameField
  rw [h.state_eq, h.name_eq]

/-- A call asks both for admission. -/
theorem acquire (h : Twins gap b b') (now : Duration) :
    Twins gap (b.acquire now) (b'.acquire now) := by
  have hadmits := h.admits_eq now
  have hstate := h.state_eq
  obtain ⟨hrest, hlast⟩ := h
  generalize b.lastFailure = t at hrest hlast
  cases ha : b'.admits now with
  | false =>
    rw [acquire_of_refuses (hadmits.trans ha), acquire_of_refuses ha, hrest]
    exact ⟨by simp [total_add_one], hlast⟩
  | true =>
    cases hs : b'.state with
    | closed | halfOpen =>
      rw [acquire_of_ne_opened (by simp [hstate, hs]), acquire_of_ne_opened (by simp [hs]), hrest]
      exact ⟨by simp [total_add_one], hlast⟩
    | opened =>
      -- The first probe: the time of failure was read, so it is the same for both.
      have hsame : t = b'.lastFailure := hlast.resolve_right fun hclosed => by simp [hs] at hclosed
      rw [acquire_of_opened (hstate.trans hs) (hadmits.trans ha), acquire_of_opened hs ha, hrest]
      exact ⟨by simp [total_add_one], .inl hsame⟩

/-- A success of both. -/
theorem succeed (h : Twins gap b b') : Twins gap b.succeed b'.succeed := by
  obtain ⟨hrest, hlast⟩ := h
  generalize b.lastFailure = t at hrest hlast
  subst hrest
  cases hs : b'.state with
  | closed =>
    simp only [Breaker.succeed_eq, hs]
    exact ⟨rfl, by simpa [hs] using hlast⟩
  | halfOpen =>
    -- A breaker that is not closed has a time of failure that both share.
    have hsame : t = b'.lastFailure := hlast.resolve_right fun hclosed => by simp [hs] at hclosed
    simp only [Breaker.succeed_eq, hs]
    split
    · exact ⟨rfl, .inl hsame⟩
    · exact ⟨rfl, .inl hsame⟩
  | opened =>
    simp only [Breaker.succeed_eq, hs]
    exact ⟨by simp [hs], hlast⟩

/-- A failure of both: if it opens them, it is the last failure of both. -/
theorem fail (h : Twins gap b b') (now : Duration) : Twins gap (b.fail now) (b'.fail now) := by
  obtain ⟨hrest, hlast⟩ := h
  -- Apart from the time of the last failure the two are one breaker.
  generalize b.lastFailure = t at hrest hlast
  subst hrest
  cases hs : b'.state with
  | closed =>
    simp only [Breaker.fail_eq, hs]
    split
    · exact ⟨rfl, .inl rfl⟩
    · exact ⟨rfl, by simpa [hs] using hlast⟩
  | halfOpen =>
    simp only [Breaker.fail_eq, hs]
    exact ⟨rfl, .inl rfl⟩
  | opened =>
    simp only [Breaker.fail_eq, hs]
    exact ⟨by simp [hs], hlast⟩

/-- An outcome of both, whichever it is. -/
theorem settle (h : Twins gap b b') (now : Duration) (success : Bool) :
    Twins gap (b.settle now success) (b'.settle now success) := by
  cases success with
  | true => exact h.succeed
  | false => exact h.fail now

/-- A reset clears the time of failure of both. -/
theorem reset (h : Twins gap b b') : Twins gap b.reset b'.reset := by
  refine ⟨?_, .inl rfl⟩
  unfold Breaker.reset
  rw [h.rest]

/-- A breaker and the same one with another time of failure, while it is closed. -/
private theorem of_stale (hclosed : b.state = .closed) (t : Option Duration) :
    Twins ⟨0, 0, t, b.lastFailure⟩ { b with lastFailure := t } b :=
  ⟨by simp, .inr ⟨hclosed, rfl, rfl⟩⟩

end Twins

/-! ## Sessions of twins -/

namespace Session

variable {gap : Gap} {s t s' t' : Session}

/-- Two sessions have gone the same way from where they began: the clock is the same, the breakers
are twins, and as many operations were run and the same was let known since. -/
structure Apace (gap : Gap) (s t s' t' : Session) : Prop where
  clock : s'.clock = t'.clock
  breaker : Twins gap s'.breaker t'.breaker
  invocations : ∃ n, s'.invocations = s.invocations + n ∧ t'.invocations = t.invocations + n
  notices : ∃ told, s'.notices = s.notices ++ told ∧ t'.notices = t.notices ++ told

namespace Apace

/-- Two sessions of twins under the same clock begin apace. -/
theorem refl (hclock : s.clock = t.clock) (hb : Twins gap s.breaker t.breaker) :
    Apace gap s t s t :=
  ⟨hclock, hb, ⟨0, rfl, rfl⟩, ⟨[], by simp, by simp⟩⟩

/-- What two sessions did and then did further is counted from where they began. -/
theorem trans {s'' t'' : Session} (h : Apace gap s t s' t') (h' : Apace gap s' t' s'' t'') :
    Apace gap s t s'' t'' := by
  obtain ⟨n, hn, hn'⟩ := h.invocations
  obtain ⟨m, hm, hm'⟩ := h'.invocations
  obtain ⟨told, ht, ht'⟩ := h.notices
  obtain ⟨more, hmore, hmore'⟩ := h'.notices
  refine ⟨h'.clock, h'.breaker, ⟨n + m, ?_, ?_⟩, ⟨told ++ more, ?_, ?_⟩⟩
  · rw [hm, hn, Nat.add_assoc]
  · rw [hm', hn', Nat.add_assoc]
  · rw [hmore, ht, List.append_assoc]
  · rw [hmore', ht', List.append_assoc]

/-- Both breakers become other ones that are twins, and the same is let known. -/
theorem become {b b' : Breaker} {told told' : List Notice} (h : Apace gap s t s' t')
    (hb : Twins gap b b') (htold : told = told') :
    Apace gap s t (s'.become b told) (t'.become b' told') := by
  subst htold
  exact h.trans ⟨h.clock, hb, ⟨0, rfl, rfl⟩, ⟨told, rfl, rfl⟩⟩

/-- A call asks the breakers of both sessions for admission, and both tell the same. -/
theorem acquire (h : Apace gap s t s' t') : Apace gap s t s'.acquire t'.acquire := by
  have hb := h.breaker.acquire s'.clock.now
  unfold Session.acquire
  rw [← h.clock, acquireNotices_eq, acquireNotices_eq]
  exact h.become hb (h.breaker.crossing_eq hb)

/-- An outcome is recorded with both, and both tell the same. -/
theorem settle (h : Apace gap s t s' t') (success : Bool) :
    Apace gap s t (s'.settle success) (t'.settle success) := by
  have hb := h.breaker.settle s'.clock.now success
  unfold Session.settle
  rw [← h.clock, settleNotices_eq, settleNotices_eq]
  exact h.become hb (h.breaker.crossing_eq hb)

/-- An operation runs once in both. -/
theorem invoke (h : Apace gap s t s' t') :
    Apace gap s t { s' with invocations := s'.invocations + 1 }
      { t' with invocations := t'.invocations + 1 } :=
  h.trans ⟨h.clock, h.breaker, ⟨1, rfl, rfl⟩, ⟨[], by simp, by simp⟩⟩

end Apace

/-- An operation under two breakers that are twins runs under both or neither, and its outcome is
recorded in the same way. -/
private theorem twins_guard (hclock : s.clock = t.clock) (hb : Twins gap s.breaker t.breaker)
    (logged : Bool) (outcome : Outcome β) :
    (s.guard logged outcome).1 = (t.guard logged outcome).1 ∧
      Apace gap s t (s.guard logged outcome).2 (t.guard logged outcome).2 := by
  have hasked : Apace gap s t s.acquire t.acquire := (Apace.refl hclock hb).acquire
  have hadmits : t.breaker.admits t.clock.now = s.breaker.admits s.clock.now := by
    rw [← hclock, hb.admits_eq]
  unfold guard
  rw [hadmits]
  split
  · cases outcome with
    | value v => exact ⟨rfl, hasked.invoke.settle true⟩
    | error e =>
      have hfailed := hasked.invoke.settle false
      exact ⟨rfl, hfailed.become hfailed.breaker rfl⟩
    | panic message => exact ⟨rfl, hasked.invoke⟩
  -- Both refuse, by the same name.
  · refine ⟨?_, hasked.become hasked.breaker rfl⟩
    show Answer.ended (.returned (.error (.circuitOpen s.acquire.breaker.name))) = _
    rw [hasked.breaker.name_eq]

/-- Twins give the same answer to every operation, and stay twins. -/
theorem twins_perform (hclock : s.clock = t.clock) (hb : Twins gap s.breaker t.breaker)
    (op : Operation β) :
    (s.perform op).1 = (t.perform op).1 ∧ Apace gap s t (s.perform op).2 (t.perform op).2 := by
  have hbegin : Apace gap s t s t := .refl hclock hb
  -- Whatever an operation reads, apart from the answer to a call, is the same of both.
  cases op with
  | tryAcquire =>
    refine ⟨?_, hbegin.acquire⟩
    show Answer.admitted (s.breaker.admits s.clock.now) = .admitted (t.breaker.admits t.clock.now)
    rw [hclock, hb.admits_eq]
  | execute outcome => exact twins_guard hclock hb true outcome
  | call outcome => exact twins_guard hclock hb false outcome
  | recordSuccess => exact ⟨rfl, hbegin.settle true⟩
  | recordFailure => exact ⟨rfl, hbegin.settle false⟩
  | reset => exact ⟨rfl, hbegin.become hb.reset hb.resetNotices_eq⟩
  | advance span =>
    simp only [perform]
    rw [← hclock]
    cases s.clock.advance? span with
    | none => exact ⟨rfl, hbegin⟩
    | some clock => exact ⟨rfl, rfl, hb, hbegin.invocations, hbegin.notices⟩

/-- Twins give the same answers to every history, and stay twins. -/
theorem twins_run (hclock : s.clock = t.clock) (hb : Twins gap s.breaker t.breaker)
    (ops : List (Operation β)) :
    (s.run ops).1 = (t.run ops).1 ∧ Apace gap s t (s.run ops).2 (t.run ops).2 := by
  -- Induction on the history; the two sessions may stand anywhere as long as they are twins.
  induction ops generalizing s t with
  | nil => exact ⟨rfl, .refl hclock hb⟩
  | cons op ops ih =>
    obtain ⟨hanswer, hstep⟩ := twins_perform hclock hb op
    obtain ⟨hanswers, hrest⟩ := ih hstep.clock hstep.breaker
    rw [run_cons, run_cons]
    exact ⟨by rw [hanswer, hanswers], hstep.trans hrest⟩

/-- The time of failure of a closed breaker decides nothing: with another one in its place every
history is the same, and in the end that time is still there or has given way to the same one. -/
private theorem run_stale (hclosed : s.breaker.state = .closed) (x : Option Duration)
    (ops : List (Operation β)) :
    ∃ y, run { s with breaker := { s.breaker with lastFailure := x } } ops =
        ((s.run ops).1,
          { (s.run ops).2 with breaker := { (s.run ops).2.breaker with lastFailure := y } }) ∧
      (y = (s.run ops).2.breaker.lastFailure ∨
        (s.run ops).2.breaker.state = .closed ∧ y = x ∧
          (s.run ops).2.breaker.lastFailure = s.breaker.lastFailure) := by
  obtain ⟨hanswers, hclock, hb, ⟨n, hn, hn'⟩, told, htold, htold'⟩ :=
    twins_run (s := { s with breaker := { s.breaker with lastFailure := x } }) (t := s) rfl
      (Twins.of_stale hclosed x) ops
  generalize run { s with breaker := { s.breaker with lastFailure := x } } ops = r at *
  obtain ⟨answers, clock, b, invocations, notices⟩ := r
  refine ⟨b.lastFailure, ?_, hb.lastFailure⟩
  have hrest := hb.rest
  -- Nothing separates the totals of a breaker and itself.
  simp only [UInt64.add_zero] at hanswers hclock hn htold hrest
  rw [hanswers, hclock, hn, htold, ← hn', ← htold', ← hrest]

end Session

/-! ## Renewal -/

/-- Whether an operation that is let in records a success. -/
def Operation.succeeds : Operation β → Bool
  | execute (.value _) | call (.value _) | recordSuccess => true
  | _ => false

variable {b : Breaker} {now : Duration}

/-- A success that leaves a breaker closed has cleared its failures. -/
private theorem failures_succeed (h : b.succeed.state = .closed) : b.succeed.failures = 0 := by
  cases hs : b.state with
  | closed => simp [succeed_eq, hs]
  | opened => simp [succeed_eq, hs] at h
  | halfOpen =>
    simp only [succeed_eq, hs] at h ⊢
    split at h
    · next hle => simp [hle]
    · cases h

/-- Admission does not close a breaker. -/
private theorem closed_of_acquire (h : (b.acquire now).state = .closed) : b.state = .closed := by
  cases hs : b.state with
  | closed => rfl
  | halfOpen =>
    -- Only an open breaker is moved by admission, and it is half-open then.
    rw [acquire_of_ne_opened (by simp [hs])] at h
    exact absurd (hs.symm.trans h) (by decide)
  | opened =>
    cases ha : b.admits now with
    | true =>
      rw [acquire_of_opened hs ha] at h
      cases h
    | false =>
      rw [acquire_of_refuses ha] at h
      exact absurd (hs.symm.trans h) (by decide)

/-- A failure does not close a breaker. -/
private theorem closed_of_fail (h : (b.fail now).state = .closed) : b.state = .closed := by
  cases hs : b.state with
  | closed => rfl
  | halfOpen | opened => simp [fail_eq, hs] at h

namespace Session

variable {s : Session}

/-- A session that begins with a given breaker when the clock is already running. -/
def startAt (clock : Clock) (b : Breaker) : Session := ⟨clock, b, 0, []⟩

/-- The operation closes the breaker, or resets it, or records a success with it while it is
closed. -/
def Renews (s : Session) (op : Operation β) : Prop :=
  (s.perform op).2.breaker.state = .closed ∧
    (s.breaker.state = .closed → op.isReset = true ∨ op.succeeds = true)

/-- An attempt renews a breaker by a success only. -/
private theorem failures_of_renews_attempt {op : Operation β} (hop : op.isAttempt = true)
    (h : s.Renews op) : (s.perform op).2.breaker.failures = 0 := by
  obtain ⟨hclosed, hwhy⟩ := h
  cases ha : s.breaker.admits s.clock.now with
  | false =>
    -- The closed breaker refuses nothing, and a refusal does not close it.
    rw [(perform_of_refuses hop ha).2.2.1] at hclosed
    have hs := closed_of_acquire hclosed
    simp [admits, hs] at ha
  | true =>
    rw [(perform_of_admits hop ha).2.2.1] at hclosed ⊢
    cases op with
    | execute outcome | call outcome =>
      cases outcome with
      | value v => exact failures_succeed hclosed
      | error e =>
        have hs := closed_of_acquire (closed_of_fail hclosed)
        simpa [Operation.isReset, Operation.succeeds] using hwhy hs
      | panic message =>
        have hs := closed_of_acquire hclosed
        simpa [Operation.isReset, Operation.succeeds] using hwhy hs
    | tryAcquire =>
      have hs := closed_of_acquire hclosed
      simpa [Operation.isReset, Operation.succeeds] using hwhy hs
    | recordSuccess | recordFailure | reset | advance => simp [Operation.isAttempt] at hop

/-- What renews a breaker leaves it without failures. -/
theorem failures_of_renews {op : Operation β} (h : s.Renews op) :
    (s.perform op).2.breaker.failures = 0 := by
  cases op with
  | tryAcquire | execute _ | call _ => exact failures_of_renews_attempt rfl h
  | recordSuccess => exact failures_succeed h.1
  | reset => rfl
  -- A failure and the passing of time renew only what was closed without failures already.
  | recordFailure =>
    have hs : s.breaker.state = .closed := closed_of_fail h.1
    simpa [Operation.isReset, Operation.succeeds] using h.2 hs
  | advance span =>
    have hs : s.breaker.state = .closed := by
      have hclosed := h.1
      rwa [perform_advance] at hclosed
    simpa [Operation.isReset, Operation.succeeds] using h.2 hs

end Session

/-- A breaker that is closed and has counted nothing but calls is the twin of a new one. -/
private theorem twins_fresh (hclosed : b.state = .closed) (hfailures : b.failures = 0)
    (hsuccesses : b.successes = 0) :
    Twins ⟨b.admitted, b.refused, b.lastFailure, none⟩ b (fresh b.name b.policy) := by
  refine ⟨?_, .inr ⟨rfl, rfl, rfl⟩⟩
  cases b
  simp_all [fresh]

/-- A breaker that has just closed, or has recorded a success while it was closed, is as good as
new. Whatever is done to it from then on, a breaker that is created at that time with the same
policy gives the same answers, goes through the same states, counts the same failures and successes,
shows the same time until it is half-open, and tells the same. Their totals stay as far apart as
they were. The time of the last failure is the same for both once a failure has opened them or a
reset has cleared them; until then it decides nothing, and any other time in its place is as
good. -/
theorem as_good_as_new {name : String} {policy : BreakerPolicy} {b : Breaker}
    (hb : make name policy = .ok b) (before : List (Operation β)) (op : Operation β)
    (hrenews : ((Session.start b).run before).2.Renews op) (after : List (Operation β)) :
    let s := (((Session.start b).run before).2.perform op).2
    let new := Session.startAt s.clock b
    let r := s.run after
    let r' := new.run after
    r.1 = r'.1 ∧ r.2.clock = r'.2.clock ∧
      r.2.breaker.state = r'.2.breaker.state ∧
      r.2.breaker.failures = r'.2.breaker.failures ∧
      r.2.breaker.successes = r'.2.breaker.successes ∧
      r.2.breaker.timeUntilHalfOpen r.2.clock.now = r'.2.breaker.timeUntilHalfOpen r'.2.clock.now ∧
      r.2.invocations = s.invocations + r'.2.invocations ∧
      r.2.notices = s.notices ++ r'.2.notices ∧
      r.2.breaker.admitted = r'.2.breaker.admitted + s.breaker.admitted ∧
      r.2.breaker.refused = r'.2.breaker.refused + s.breaker.refused ∧
      (r.2.breaker.lastFailure = r'.2.breaker.lastFailure ∨
        r.2.breaker.state = .closed ∧ r.2.breaker.lastFailure = s.breaker.lastFailure ∧
          r'.2.breaker.lastFailure = none) ∧
      ∀ x, ∃ y,
        Session.run { s with breaker := { s.breaker with lastFailure := x } } after =
          (r.1, { r.2 with breaker := { r.2.breaker with lastFailure := y } }) ∧
        (y = r.2.breaker.lastFailure ∨
          r.2.breaker.state = .closed ∧ y = x ∧
            r.2.breaker.lastFailure = s.breaker.lastFailure) := by
  intro s new r r'
  obtain ⟨hvalid, rfl⟩ := make_eq_ok_iff.1 hb
  have hclosed : s.breaker.state = .closed := hrenews.1
  -- The renewed breaker is a new one but for its totals and its time of failure.
  have hsession : s = ((Session.start (fresh name policy)).run (before ++ [op])).2 := by
    rw [Session.run_append]
    rfl
  have hidentity := identity_run (Session.start (fresh name policy)) (before ++ [op])
  have hcounted : s.breaker.WellCounted s.clock.now := by
    rw [hsession]
    exact WellCounted.run (s := Session.start (fresh name policy)) hvalid
      (wellCounted_fresh hvalid) _
  have hsuccesses : s.breaker.successes = 0 := by
    simp only [WellCounted, hclosed] at hcounted
    exact hcounted.2
  have htwins := twins_fresh hclosed (Session.failures_of_renews hrenews) hsuccesses
  have hnew : fresh s.breaker.name s.breaker.policy = new.breaker := by
    rw [hsession, hidentity.1, hidentity.2]
    rfl
  rw [hnew] at htwins
  -- All but the last part is read off the twins; the last is about one breaker with two times.
  obtain ⟨hanswers, hapace⟩ := Session.twins_run (s := s) (t := new) rfl htwins after
  obtain ⟨n, hn, hn'⟩ := hapace.invocations
  obtain ⟨told, htold, htold'⟩ := hapace.notices
  refine ⟨hanswers, hapace.clock, hapace.breaker.state_eq, hapace.breaker.failures_eq,
    hapace.breaker.successes_eq, ?_, ?_, ?_, hapace.breaker.admitted_eq,
    hapace.breaker.refused_eq, ?_, fun x => ?_⟩
  · rw [hapace.clock]
    exact hapace.breaker.timeUntilHalfOpen_eq _
  · rw [hn, hn']
    simp [new, Session.startAt]
  · rw [htold, htold']
    simp [new, Session.startAt]
  · rcases hapace.breaker.lastFailure with hsame | ⟨hs, hstale, hnone⟩
    · exact .inl hsame
    · exact .inr ⟨hapace.breaker.state_eq.trans hs, hstale, hnone⟩
  · exact Session.run_stale hclosed x after

/-- A breaker that a probe has closed still has the time of the failure before; five seconds later
one failure opens it, as it opens a new one. -/
theorem as_good_as_new_probed :
    let before : List (Operation Nat) := [.recordFailure, .advance (.ofSeconds 10), .tryAcquire]
    let after : List (Operation Nat) :=
      [.call (.value 7), .advance (.ofSeconds 5), .execute (.error ⟨"down"⟩), .tryAcquire]
    let s := (((Session.start (fresh "db" ⟨1, .ofSeconds 10, 1⟩)).run before).2.perform
      (.recordSuccess : Operation Nat)).2
    let new := Session.startAt s.clock (fresh "db" ⟨1, .ofSeconds 10, 1⟩)
    make "db" ⟨1, .ofSeconds 10, 1⟩ = .ok (fresh "db" ⟨1, .ofSeconds 10, 1⟩) ∧
      ((Session.start (fresh "db" ⟨1, .ofSeconds 10, 1⟩)).run before).2.Renews
        (.recordSuccess : Operation Nat) ∧
      s.breaker.lastFailure = some .zero ∧ s.breaker.admitted = 1 ∧
      (s.run after).1 = (new.run after).1 ∧
      (s.run after).2.breaker.state = (new.run after).2.breaker.state ∧
      (s.run after).2.breaker.admitted = (new.run after).2.breaker.admitted + s.breaker.admitted ∧
      (new.run after).2.breaker.state = .opened := by
  intro before after
  have hb : make "db" ⟨1, .ofSeconds 10, 1⟩ = .ok (fresh "db" ⟨1, .ofSeconds 10, 1⟩) := rfl
  have hrenews : ((Session.start (fresh "db" ⟨1, .ofSeconds 10, 1⟩)).run before).2.Renews
      (.recordSuccess : Operation Nat) := ⟨rfl, fun h => by cases h⟩
  obtain ⟨hanswers, -, hstate, -, -, -, -, -, hadmitted, -⟩ :=
    as_good_as_new hb before .recordSuccess hrenews after
  exact ⟨hb, hrenews, rfl, rfl, hanswers, hstate, hadmitted, by decide +kernel⟩

end Safeguard.Breaker
