import Safeguard.Proofs.BreakerInvariant

/-!
# The totals of a breaker

A breaker counts the calls that it admits and those that it refuses. These totals stand apart from
its state: an outcome and a reset leave them alone, and a call that asks for admission moves one of
them by one, whichever way it asks. `Tallied` compares two sessions by how often the breaker was
asked, how often it refused and how many operations were run in between, and adds up along a
history.

## Key results

- `totals_acquire`, `totals_settle`, `totals_reset`: the moves of a breaker
- `Session.totals_attempt`: the total that an attempt moves is the one that fits its answer
- `Session.tallied_perform`, `Session.tallied_run`: one operation and a history
- `calls_accounted`: the totals and the operations run after any history of a new breaker
-/

namespace Safeguard.Breaker

variable {β : Type}

/-! ## Exchanges -/

/-- Whether an operation brings along what is to be run under the breaker. -/
def Operation.isCall : Operation β → Bool
  | execute _ | call _ => true
  | tryAcquire | recordSuccess | recordFailure | reset | advance _ => false

/-- Whether an answer turns an attempt away: no admission, or an open circuit. -/
def Answer.isRefusal : Answer β → Bool
  | admitted yes => !yes
  | ended (.returned (.error (.circuitOpen _))) => true
  | _ => false

/-- Whether an operation and its answer are a call that was not turned away. -/
def isLetIn (exchange : Operation β × Answer β) : Bool :=
  exchange.1.isCall && !exchange.2.isRefusal

/-- Every way of asking has an answer that turns it away. -/
@[simp] theorem isRefusal_refusal (op : Operation β) (name : String) :
    (op.refusal name).isRefusal = true := by
  cases op <;> rfl

/-- What an operation comes to is never taken for a refusal, whatever its error. -/
@[simp] theorem isRefusal_admission (op : Operation β) : op.admission.isRefusal = false := by
  cases op with
  | execute outcome | call outcome => cases outcome <;> rfl
  | tryAcquire | recordSuccess | recordFailure | reset | advance => rfl

/-- What brings something to run asks for admission too. -/
private theorem Operation.isCall_of_not_attempt (op : Operation β) (hop : op.isAttempt = false) :
    op.isCall = false := by
  cases op with
  | tryAcquire | execute _ | call _ => simp [isAttempt] at hop
  | recordSuccess | recordFailure | reset | advance _ => rfl

/-- A call brings one thing to run, and the other operations none. -/
private theorem Operation.invocations_eq (op : Operation β) :
    op.invocations = if op.isCall then 1 else 0 := by
  cases op <;> rfl

/-! ## Moves -/

/-- What a breaker has counted of the calls admitted and of the calls refused. -/
def totals (b : Breaker) : UInt64 × UInt64 := (b.admitted, b.refused)

variable (b : Breaker) (now : Duration)

/-- A call that asks for admission is counted once. -/
theorem totals_acquire : (b.acquire now).totals =
    if b.admits now then (b.admitted + 1, b.refused) else (b.admitted, b.refused + 1) := by
  rw [acquire_eq]
  split
  · split <;> rfl
  · rfl

@[simp] theorem totals_succeed : b.succeed.totals = b.totals := by
  rw [succeed_frame]
  rfl

@[simp] theorem totals_fail : (b.fail now).totals = b.totals := by
  rw [fail_frame]
  rfl

/-- Outcomes are counted elsewhere. -/
@[simp] theorem totals_settle (success : Bool) : (b.settle now success).totals = b.totals := by
  cases success <;> simp [settle]

@[simp] theorem totals_reset : b.reset.totals = b.totals := rfl

/-- The outcome of an admitted attempt is not counted. -/
@[simp] theorem totals_settled (op : Operation β) : (op.settled now b).totals = b.totals := by
  unfold Operation.settled
  split <;> simp

/-! ## One operation -/

namespace Session

variable {op : Operation β}

/-- An attempt is counted once, and its answer tells by which of the totals. -/
theorem totals_attempt (hop : op.isAttempt = true) (s : Session) :
    (s.perform op).2.breaker.totals =
      if (s.perform op).1.isRefusal then (s.breaker.admitted, s.breaker.refused + 1)
      else (s.breaker.admitted + 1, s.breaker.refused) := by
  have hacquire := totals_acquire s.breaker s.clock.now
  cases hadmits : s.breaker.admits s.clock.now with
  | true =>
    obtain ⟨hanswer, -, hbreaker, -⟩ := perform_of_admits hop hadmits
    -- What the operation comes to is recorded after the admission, and apart from the totals.
    rw [hbreaker, hanswer, totals_settled, hacquire, hadmits, isRefusal_admission]
    rfl
  | false =>
    obtain ⟨hanswer, -, hbreaker, -⟩ := perform_of_refuses hop hadmits
    rw [hbreaker, hanswer, hacquire, hadmits, isRefusal_refusal]
    rfl

/-- What is to be run is run once if the call is not turned away, however it ends. -/
private theorem invocations_attempt (hop : op.isAttempt = true) (s : Session) :
    (s.perform op).2.invocations =
      s.invocations + if isLetIn (op, (s.perform op).1) then 1 else 0 := by
  cases hadmits : s.breaker.admits s.clock.now with
  | true =>
    obtain ⟨hanswer, -, -, hrun⟩ := perform_of_admits hop hadmits
    rw [hrun, hanswer, op.invocations_eq]
    simp [isLetIn]
  | false =>
    obtain ⟨hanswer, -, -, hrun⟩ := perform_of_refuses hop hadmits
    rw [hrun, hanswer]
    simp [isLetIn]

/-- Whatever asks for no admission is not turned away, leaves the totals alone and runs nothing. -/
private theorem perform_of_not_attempt (hop : op.isAttempt = false) (s : Session) :
    (s.perform op).1.isRefusal = false ∧
      (s.perform op).2.breaker.totals = s.breaker.totals ∧
      (s.perform op).2.invocations = s.invocations := by
  cases op with
  | tryAcquire | execute _ | call _ => simp [Operation.isAttempt] at hop
  | recordSuccess => exact ⟨rfl, totals_settle s.breaker s.clock.now true, rfl⟩
  | recordFailure => exact ⟨rfl, totals_settle s.breaker s.clock.now false, rfl⟩
  | reset => exact ⟨rfl, totals_reset s.breaker, rfl⟩
  | advance span =>
    rw [perform_advance]
    refine ⟨?_, rfl, rfl⟩
    simp only [perform]
    cases s.clock.advance? span <;> rfl

/-! ## Histories -/

/-- From one session to another, the breaker was asked for admission `asked` times and refused it
`refused` times, and `run` operations were run. -/
structure Tallied (s s' : Session) (asked refused run : Nat) : Prop where
  asked : s'.breaker.admitted + s'.breaker.refused =
    s.breaker.admitted + s.breaker.refused + UInt64.ofNat asked
  refused : s'.breaker.refused = s.breaker.refused + UInt64.ofNat refused
  run : s'.invocations = s.invocations + run

variable {s s' s'' : Session} {asked refused run asked' refused' run' : Nat}

/-- Nothing was asked and nothing was run. -/
private theorem Tallied.of_totals_eq (htotals : s'.breaker.totals = s.breaker.totals)
    (hrun : s'.invocations = s.invocations) : Tallied s s' 0 0 0 := by
  obtain ⟨hadmitted, hrefused⟩ := Prod.mk.inj htotals
  exact ⟨by simp [hadmitted, hrefused], by simp [hrefused], hrun⟩

/-- One call asked for admission, and the total that fits the answer has grown by one. -/
private theorem Tallied.of_asked {turnedAway : Bool}
    (htotals : s'.breaker.totals =
      if turnedAway then (s.breaker.admitted, s.breaker.refused + 1)
      else (s.breaker.admitted + 1, s.breaker.refused))
    (hrun : s'.invocations = s.invocations + run) :
    Tallied s s' 1 (if turnedAway then 1 else 0) run := by
  cases turnedAway with
  | true =>
    obtain ⟨hadmitted, hrefused⟩ := Prod.mk.inj htotals
    refine ⟨?_, hrefused, hrun⟩
    rw [hadmitted, hrefused, ← UInt64.add_assoc]
    rfl
  | false =>
    obtain ⟨hadmitted, hrefused⟩ := Prod.mk.inj htotals
    refine ⟨?_, hrefused.trans (UInt64.add_zero _).symm, hrun⟩
    -- The call that was admitted is counted in the first summand.
    rw [hadmitted, hrefused, UInt64.add_assoc, UInt64.add_comm 1, ← UInt64.add_assoc]
    rfl

/-- Tallies add up; what is counted modulo `2^64` adds up modulo `2^64`. -/
theorem Tallied.trans (h : Tallied s s' asked refused run)
    (h' : Tallied s' s'' asked' refused' run') :
    Tallied s s'' (asked + asked') (refused + refused') (run + run') where
  asked := by rw [h'.asked, h.asked, UInt64.ofNat_add, UInt64.add_assoc]
  refused := by rw [h'.refused, h.refused, UInt64.ofNat_add, UInt64.add_assoc]
  run := by rw [h'.run, h.run, Nat.add_assoc]

/-- One operation is tallied by what it asks for and what it is answered. -/
theorem tallied_perform (s : Session) (op : Operation β) :
    Tallied s (s.perform op).2 (if op.isAttempt then 1 else 0)
      (if (s.perform op).1.isRefusal then 1 else 0)
      (if isLetIn (op, (s.perform op).1) then 1 else 0) := by
  cases hop : op.isAttempt with
  | false =>
    obtain ⟨hanswer, htotals, hrun⟩ := perform_of_not_attempt hop s
    rw [isLetIn, op.isCall_of_not_attempt hop, hanswer]
    exact .of_totals_eq htotals hrun
  | true => exact .of_asked (totals_attempt hop s) (invocations_attempt hop s)

/-- A history is tallied by its operations and their answers. -/
theorem tallied_run (s : Session) (ops : List (Operation β)) :
    Tallied s (s.run ops).2 (ops.countP (·.isAttempt)) ((s.run ops).1.countP (·.isRefusal))
      ((ops.zip (s.run ops).1).countP isLetIn) := by
  -- Induction on the history, whose tally is the sum of those of its operations.
  induction ops generalizing s with
  | nil => exact .of_totals_eq rfl rfl
  | cons op ops ih =>
    -- The tally of the first operation and that of the rest, from the session that it left.
    have hrun := (tallied_perform s op).trans (ih (s.perform op).2)
    simpa only [run_cons, List.zip_cons_cons, List.countP_cons, Nat.add_comm] using hrun

/-- Every operation is answered. -/
private theorem length_answers (s : Session) (ops : List (Operation β)) :
    (s.run ops).1.length = ops.length := by
  induction ops generalizing s with
  | nil => rfl
  | cons op ops ih => exact congrArg (· + 1) (ih _)

end Session

/-- After any history of a new breaker its totals add up to the attempts made, and the refusals that
it has counted are the answers that turned an attempt away, both modulo `2^64`. What was to be run
has been run once for each call that was not turned away, also if it panicked. An operation that
asks for no admission is not turned away, runs nothing and changes neither total. -/
theorem calls_accounted {name : String} {policy : BreakerPolicy} {b : Breaker}
    (hb : make name policy = .ok b) (ops : List (Operation β)) :
    let r := (Session.start b).run ops
    let s := r.2
    r.1.length = ops.length ∧
      s.breaker.admitted + s.breaker.refused = UInt64.ofNat (ops.countP (·.isAttempt)) ∧
      s.breaker.refused = UInt64.ofNat (r.1.countP (·.isRefusal)) ∧
      s.invocations = (ops.zip r.1).countP isLetIn ∧
      ∀ op : Operation β, op.isAttempt = false →
        (s.perform op).1.isRefusal = false ∧
          (s.perform op).2.breaker.totals = s.breaker.totals ∧
          (s.perform op).2.invocations = s.invocations := by
  obtain ⟨-, rfl⟩ := make_eq_ok_iff.1 hb
  obtain ⟨hasked, hrefused, hrun⟩ := Session.tallied_run (Session.start (fresh name policy)) ops
  refine ⟨Session.length_answers _ ops, ?_, ?_, ?_, fun op hop =>
    Session.perform_of_not_attempt hop _⟩
  -- A new breaker begins with nothing counted and nothing run.
  · exact hasked.trans (UInt64.zero_add _)
  · exact hrefused.trans (UInt64.zero_add _)
  · exact hrun.trans (Nat.zero_add _)

/-- Seven attempts at a breaker that a failure opens, that a failed probe opens again and that is
then reset: four are admitted, one of them a call that panics, and three are turned away. -/
theorem calls_accounted_reset :
    make "db" ⟨1, .ofSeconds 10, 1⟩ = .ok (fresh "db" ⟨1, .ofSeconds 10, 1⟩) ∧
      let ops : List (Operation Unit) :=
        [.execute (.panic "boom"), .call (.error ⟨"down"⟩), .tryAcquire, .execute (.value ()),
          .advance (.ofSeconds 10), .execute (.error ⟨"down"⟩), .call (.value ()), .reset,
          .recordSuccess, .call (.value ())]
      let s := ((Session.start (fresh "db" ⟨1, .ofSeconds 10, 1⟩)).run ops).2
      s.breaker.admitted + s.breaker.refused = 7 ∧ s.breaker.refused = 3 ∧ s.invocations = 4 ∧
        (s.perform (.recordFailure : Operation Unit)).2.breaker.totals = s.breaker.totals := by
  have hb : make "db" ⟨1, .ofSeconds 10, 1⟩ = .ok (fresh "db" ⟨1, .ofSeconds 10, 1⟩) := rfl
  obtain ⟨-, hasked, hrefused, hrun, haside⟩ := calls_accounted hb
    ([.execute (.panic "boom"), .call (.error ⟨"down"⟩), .tryAcquire, .execute (.value ()),
      .advance (.ofSeconds 10), .execute (.error ⟨"down"⟩), .call (.value ()), .reset,
      .recordSuccess, .call (.value ())] : List (Operation Unit))
  exact ⟨hb, hasked, hrefused, hrun, (haside .recordFailure rfl).2.1⟩

end Safeguard.Breaker
