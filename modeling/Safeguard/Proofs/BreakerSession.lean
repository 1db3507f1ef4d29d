import Safeguard.Breaker.Session

/-!
# Operations on a session

What one operation does to a session, said once: an attempt that the breaker admits
(`perform_of_admits`), an attempt that it refuses (`perform_of_refuses`), and the rest by `rfl`.
Proofs about histories cite these lemmas and do not unfold `Session.perform`.

## Key results

- `acquire_frame`, `succeed_frame`, `fail_frame`: what a move of the breaker leaves alone
- `acquireNotices_eq`, `settleNotices_eq`: a move is told if and only if the state has changed
- `perform_of_admits` / `perform_of_refuses`: an attempt's answer and the session after it
- `run_append`: a history is run in two parts
- `run_keeps`: what every move of the breaker keeps holds after every history
-/

namespace Safeguard.Breaker

variable {β : Type}

namespace Operation

/-- Whether an operation asks for admission. -/
def isAttempt : Operation β → Bool
  | tryAcquire | execute _ | call _ => true
  | recordSuccess | recordFailure | reset | advance _ => false

/-- Whether an operation is a reset. -/
def isReset : Operation β → Bool
  | reset => true
  | _ => false

/-- What an attempt is answered when the breaker called `name` refuses it. -/
def refusal (name : String) : Operation β → Answer β
  | execute _ | call _ => .ended (.returned (.error (.circuitOpen name)))
  | _ => .admitted false

/-- What an attempt is answered when it is admitted: an operation's outcome, or just that. -/
def admission : Operation β → Answer β
  | execute outcome | call outcome => .ended (outcome.ending.map fun r => r.mapError .operation)
  | _ => .admitted true

/-- How often an operation is run for an attempt that is admitted. -/
def invocations : Operation β → Nat
  | execute _ | call _ => 1
  | _ => 0

/-- The breaker after the outcome that an admitted attempt brings; a panic brings none. -/
def settled (now : Duration) (b : Breaker) : Operation β → Breaker
  | execute (.value _) | call (.value _) => b.settle now true
  | execute (.error _) | call (.error _) => b.settle now false
  | _ => b

end Operation

/-! ## One step of the breaker -/

variable (b : Breaker) (now : Duration)

/-- A call that asks for admission changes the state and the counts of calls and of successes. -/
theorem acquire_frame : b.acquire now =
    { b with
      state := (b.acquire now).state
      successes := (b.acquire now).successes
      admitted := (b.acquire now).admitted
      refused := (b.acquire now).refused } := by
  rw [acquire_eq]
  split
  · split <;> rfl
  · rfl

/-- A success changes the state and the counts of outcomes. -/
theorem succeed_frame : b.succeed =
    { b with
      state := b.succeed.state
      failures := b.succeed.failures
      successes := b.succeed.successes } := by
  rw [succeed_eq]
  split
  · rfl
  · split <;> rfl
  · rfl

/-- A failure changes the state and the counts of outcomes, and leaves its time. -/
theorem fail_frame : b.fail now =
    { b with
      state := (b.fail now).state
      failures := (b.fail now).failures
      successes := (b.fail now).successes
      lastFailure := (b.fail now).lastFailure } := by
  rw [fail_eq]
  split
  · split <;> rfl
  · rfl
  · rfl

@[simp] theorem policy_acquire : (b.acquire now).policy = b.policy := by rw [acquire_frame]

@[simp] theorem name_acquire : (b.acquire now).name = b.name := by rw [acquire_frame]

@[simp] theorem policy_succeed : b.succeed.policy = b.policy := by rw [succeed_frame]

@[simp] theorem name_succeed : b.succeed.name = b.name := by rw [succeed_frame]

@[simp] theorem policy_fail : (b.fail now).policy = b.policy := by rw [fail_frame]

@[simp] theorem name_fail : (b.fail now).name = b.name := by rw [fail_frame]

@[simp] theorem policy_settle (success : Bool) : (b.settle now success).policy = b.policy := by
  cases success <;> simp [settle]

@[simp] theorem name_settle (success : Bool) : (b.settle now success).name = b.name := by
  cases success <;> simp [settle]

/-- A refused call leaves its mark on the count of refusals only. -/
theorem acquire_of_refuses {b : Breaker} {now : Duration} (h : b.admits now = false) :
    b.acquire now = { b with refused := b.refused + 1 } := by
  simp [acquire_eq, h]

/-! ## What a move lets the world know -/

/-- What is to be known of a breaker that has become `after`: nothing if its state is the same. -/
def crossing (after : Breaker) : List Notice :=
  if b.state = after.state then []
  else
    match after.state with
    | .halfOpen =>
      b.moved (.log .debug "Circuit breaker half-open, admitting probe" [b.nameField]) .halfOpen
    | .closed =>
      b.moved (.log .info "Circuit breaker closed after successful probes" [b.nameField]) .closed
    | .opened =>
      b.moved
        (.log .warn "Circuit breaker opened"
          [b.nameField, ("failures", .number after.failures.toNat)]) .opened

/-- A call that asks for admission lets the world know of the move that it made, once, and of no
other. -/
theorem acquireNotices_eq : b.acquireNotices now = b.crossing (b.acquire now) := by
  -- Case by case, the transition and its notices are written side by side.
  unfold acquireNotices crossing acquire asked
  cases hadmits : b.admits now with
  | false => simp
  | true => cases hs : b.state <;> simp

/-- A success lets the world know of the move that it made, once, and of no other. -/
private theorem succeedNotices_eq : b.succeedNotices = b.crossing b.succeed := by
  unfold succeedNotices crossing succeed succeeded
  cases hs : b.state with
  | closed | opened => simp [hs]
  | halfOpen =>
    by_cases hle : b.policy.successThreshold ≤ b.successes + 1 <;> simp [hle]

/-- A failure lets the world know of the move that it made, once, and of no other. -/
private theorem failNotices_eq : b.failNotices now = b.crossing (b.fail now) := by
  unfold failNotices crossing fail failed
  cases hs : b.state with
  | closed =>
    by_cases hle : b.policy.failureThreshold ≤ countFailure b.failures <;> simp [hle]
  | halfOpen | opened => simp [hs]

/-- So does the outcome of a call. -/
theorem settleNotices_eq (success : Bool) :
    b.settleNotices now success = b.crossing (b.settle now success) := by
  cases success with
  | true => exact b.succeedNotices_eq
  | false => exact b.failNotices_eq now

namespace Session

variable {s : Session}

/-! ## One operation -/

/-- An attempt that the breaker refuses: nothing runs. -/
theorem perform_of_refuses {op : Operation β} (hop : op.isAttempt = true)
    (h : s.breaker.admits s.clock.now = false) :
    (s.perform op).1 = op.refusal s.breaker.name ∧
      (s.perform op).2.clock = s.clock ∧
      (s.perform op).2.breaker = s.breaker.acquire s.clock.now ∧
      (s.perform op).2.invocations = s.invocations := by
  cases op with
  | tryAcquire => exact ⟨by simp [perform, Operation.refusal, h], rfl, rfl, rfl⟩
  | execute outcome | call outcome =>
    simp [perform, guard, h, acquire, become, Operation.refusal]
  | recordSuccess | recordFailure | reset | advance => simp [Operation.isAttempt] at hop

/-- An attempt that the breaker admits: its operation runs once, and its outcome is recorded with
the breaker that admitted it. -/
theorem perform_of_admits {op : Operation β} (hop : op.isAttempt = true)
    (h : s.breaker.admits s.clock.now = true) :
    (s.perform op).1 = op.admission ∧
      (s.perform op).2.clock = s.clock ∧
      (s.perform op).2.breaker = op.settled s.clock.now (s.breaker.acquire s.clock.now) ∧
      (s.perform op).2.invocations = s.invocations + op.invocations := by
  cases op with
  | tryAcquire => exact ⟨by simp [perform, Operation.admission, h], rfl, rfl, rfl⟩
  | execute outcome | call outcome =>
    cases outcome <;>
      simp [perform, guard, h, acquire, settle, become, Operation.admission, Operation.settled,
        Operation.invocations, Outcome.ending]
  | recordSuccess | recordFailure | reset | advance => simp [Operation.isAttempt] at hop

/-- The clock moves by the whole span or not at all. -/
theorem perform_advance (s : Session) (span : Duration) :
    (s.perform (.advance span : Operation β)).2 =
      { s with clock := (s.clock.advance? span).getD s.clock } := by
  simp only [perform]
  cases s.clock.advance? span <;> rfl

/-! ## Histories -/

@[simp] theorem run_nil (s : Session) : s.run ([] : List (Operation β)) = ([], s) := rfl

@[simp] theorem run_cons (s : Session) (op : Operation β) (ops : List (Operation β)) :
    s.run (op :: ops) =
      ((s.perform op).1 :: ((s.perform op).2.run ops).1, ((s.perform op).2.run ops).2) := rfl

/-- A history is run in two parts, the second from where the first ended. -/
theorem run_append (s : Session) (ops more : List (Operation β)) :
    s.run (ops ++ more) =
      ((s.run ops).1 ++ ((s.run ops).2.run more).1, ((s.run ops).2.run more).2) := by
  induction ops generalizing s with
  | nil => rfl
  | cons op ops ih => simp [ih]

/-- One operation keeps what every move of the clock and the breaker keeps. -/
private theorem perform_keeps {P : Clock → Breaker → Prop}
    (acquire : ∀ c b, P c b → P c (b.acquire c.now))
    (settle : ∀ c b success, P c b → P c (b.settle c.now success))
    (reset : ∀ c b, P c b → P c b.reset)
    (advance : ∀ c c' b span, Clock.advance? c span = some c' → P c b → P c' b)
    (s : Session) (op : Operation β) (h : P s.clock s.breaker) :
    P (s.perform op).2.clock (s.perform op).2.breaker := by
  -- An attempt is a request for admission, and an outcome if it is let in and brings one.
  have attempt : op.isAttempt = true → P (s.perform op).2.clock (s.perform op).2.breaker := by
    intro hop
    cases hadm : s.breaker.admits s.clock.now with
    | false =>
      obtain ⟨-, hclock, hbreaker, -⟩ := perform_of_refuses hop hadm
      rw [hclock, hbreaker]
      exact acquire _ _ h
    | true =>
      obtain ⟨-, hclock, hbreaker, -⟩ := perform_of_admits hop hadm
      rw [hclock, hbreaker]
      have hacquired := acquire _ _ h
      unfold Operation.settled
      split <;> first | exact settle _ _ _ hacquired | exact hacquired
  cases op with
  | tryAcquire | execute _ | call _ => exact attempt rfl
  | recordSuccess => exact settle _ _ true h
  | recordFailure => exact settle _ _ false h
  | reset => exact reset _ _ h
  | advance span =>
    rw [perform_advance]
    cases hc : s.clock.advance? span with
    | none => exact h
    | some c => exact advance _ _ _ _ hc h

/-- A history keeps what every move of the clock and the breaker keeps. -/
theorem run_keeps {P : Clock → Breaker → Prop}
    (acquire : ∀ c b, P c b → P c (b.acquire c.now))
    (settle : ∀ c b success, P c b → P c (b.settle c.now success))
    (reset : ∀ c b, P c b → P c b.reset)
    (advance : ∀ c c' b span, Clock.advance? c span = some c' → P c b → P c' b)
    (s : Session) (ops : List (Operation β)) (h : P s.clock s.breaker) :
    P (s.run ops).2.clock (s.run ops).2.breaker := by
  -- Induction on the history, from any session on.
  induction ops generalizing s with
  | nil => exact h
  | cons op ops ih => exact ih _ (perform_keeps acquire settle reset advance s op h)

end Session

end Safeguard.Breaker
