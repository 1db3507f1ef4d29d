import Safeguard.Breaker.State
import Safeguard.Log
import Safeguard.Policy
import Safeguard.Text.Quoted

/-!
# Circuit breaker

A breaker starts closed and counts the failures in a row. When they reach the threshold it opens and
refuses every call. Once the reset timeout has passed since the failure that opened it, the next
call is admitted as a probe and the breaker is half-open: enough successes close it, the first
failure opens it again. Several calls may be admitted as probes at once, and an outcome counts
however long ago its call was admitted; outcomes that arrive while the breaker is open are ignored.

Every operation takes the time as an argument. `asked`, `succeeded` and `failed` give the breaker
after an operation together with the state that the operation moved it to, if it moved it, and
`acquireNotices` and `settleNotices` let the world know of this move.
-/

namespace Safeguard

/-- A circuit breaker and what it has counted. -/
structure Breaker where
  name : String
  policy : BreakerPolicy
  state : BreakerState
  /-- The failures in a row of the closed breaker; kept as they were while it is not closed. -/
  failures : UInt32
  /-- The successes of the half-open breaker. -/
  successes : UInt32
  /-- The time of the failure that opened the breaker last. -/
  lastFailure : Option Duration
  /-- The calls admitted, modulo `2^64`. -/
  admitted : UInt64
  /-- The calls refused, modulo `2^64`. -/
  refused : UInt64
deriving DecidableEq

namespace Breaker

/-- A closed breaker that has counted nothing. -/
def fresh (name : String) (policy : BreakerPolicy) : Breaker :=
  ⟨name, policy, .closed, 0, 0, none, 0, 0⟩

/-- A breaker with a policy that is in order. -/
def make (name : String) (policy : BreakerPolicy) : Except PolicyError Breaker := do
  policy.validate
  return fresh name policy

variable (b : Breaker)

/-! ## Admission -/

/-- The time that has passed since the failure that opened the breaker; without one the breaker has
cooled down. -/
def idle (now : Duration) : Duration :=
  match b.lastFailure with
  | none => b.policy.resetTimeout
  | some t => now - t

/-- Whether a call is admitted now. -/
def admits (now : Duration) : Bool :=
  match b.state with
  | .closed | .halfOpen => true
  | .opened => b.policy.resetTimeout ≤ b.idle now

/-- The breaker after a call has asked for admission, and the state that this moved it to. The first
call to be admitted by the open breaker makes it half-open. -/
def asked (now : Duration) : Breaker × Option BreakerState :=
  if b.admits now then
    match b.state with
    -- While the breaker probes every call is admitted, so several probes may be under way at once.
    | .closed | .halfOpen => ({ b with admitted := b.admitted + 1 }, none)
    | .opened =>
      ({ b with state := .halfOpen, successes := 0, admitted := b.admitted + 1 }, some .halfOpen)
  else ({ b with refused := b.refused + 1 }, none)

/-- The breaker after a call has asked for admission. -/
def acquire (now : Duration) : Breaker := (b.asked now).1

/-- What a request for admission does to the breaker, with the notices left out. -/
theorem acquire_eq (now : Duration) : b.acquire now =
    if b.admits now then
      match b.state with
      | .closed | .halfOpen => { b with admitted := b.admitted + 1 }
      | .opened => { b with state := .halfOpen, successes := 0, admitted := b.admitted + 1 }
    else { b with refused := b.refused + 1 } := by
  unfold acquire asked
  cases b.admits now <;> cases b.state <;> rfl

/-- The time left until the open breaker admits a call; no time in any other state. -/
def timeUntilHalfOpen (now : Duration) : Option Duration :=
  match b.state with
  | .opened => some (b.policy.resetTimeout - b.idle now)
  | .closed | .halfOpen => none

/-! ## Outcomes -/

/-- The breaker after a success, and the state that this moved it to. -/
def succeeded : Breaker × Option BreakerState :=
  match b.state with
  -- Failures count in a row.
  | .closed => ({ b with failures := 0 }, none)
  | .halfOpen =>
    if b.policy.successThreshold ≤ b.successes + 1 then
      ({ b with state := .closed, failures := 0, successes := 0 }, some .closed)
    else ({ b with successes := b.successes + 1 }, none)
  -- A success that comes after the breaker has opened changes nothing.
  | .opened => (b, none)

/-- The breaker after a success. -/
def succeed : Breaker := b.succeeded.1

/-- What a success does to the breaker, with the notices left out. -/
theorem succeed_eq : b.succeed =
    match b.state with
    | .closed => { b with failures := 0 }
    | .halfOpen =>
      if b.policy.successThreshold ≤ b.successes + 1 then
        { b with state := .closed, failures := 0, successes := 0 }
      else { b with successes := b.successes + 1 }
    | .opened => b := by
  unfold succeed succeeded
  cases b.state with
  | closed | opened => rfl
  | halfOpen => dsimp only; split <;> rfl

/-- One more failure; the count stops at the largest word. -/
def countFailure (n : UInt32) : UInt32 := if n + 1 = 0 then n else n + 1

/-- The breaker after a failure, and the state that this moved it to with the failures that it has
counted then. -/
def failed (now : Duration) : Breaker × Option (BreakerState × UInt32) :=
  match b.state with
  | .closed =>
    let failures := countFailure b.failures
    if b.policy.failureThreshold ≤ failures then
      ({ b with state := .opened, failures, lastFailure := some now }, some (.opened, failures))
    else ({ b with failures }, none)
  -- The failures are those that opened the breaker first.
  | .halfOpen =>
    ({ b with state := .opened, successes := 0, lastFailure := some now },
      some (.opened, b.failures))
  | .opened => (b, none)

/-- The breaker after a failure. -/
def fail (now : Duration) : Breaker := (b.failed now).1

/-- What a failure does to the breaker, with the notices left out. -/
theorem fail_eq (now : Duration) : b.fail now =
    match b.state with
    | .closed =>
      if b.policy.failureThreshold ≤ countFailure b.failures then
        { b with state := .opened, failures := countFailure b.failures, lastFailure := some now }
      else { b with failures := countFailure b.failures }
    | .halfOpen => { b with state := .opened, successes := 0, lastFailure := some now }
    | .opened => b := by
  unfold fail failed
  cases b.state with
  | closed => dsimp only; split <;> rfl
  | halfOpen | opened => rfl

/-- The breaker after the outcome of a call. -/
def settle (now : Duration) (success : Bool) : Breaker :=
  if success then b.succeed else b.fail now

/-- The closed breaker that has counted nothing but its calls. -/
def reset : Breaker :=
  { b with state := .closed, failures := 0, successes := 0, lastFailure := none }

/-! ## What others see -/

/-- The field that names the breaker in log lines. -/
def nameField : String × LogValue := ("breaker", .text b.name)

/-- What a move to another state lets the world know, after a log line. -/
def moved (line : Notice) (state : BreakerState) : List Notice :=
  [line, .signal (.stateChange b.name state)]

/-- What a call that asks for admission lets the world know. -/
def acquireNotices (now : Duration) : List Notice :=
  match (b.asked now).2 with
  | none => []
  | some state =>
    b.moved (.log .debug "Circuit breaker half-open, admitting probe" [b.nameField]) state

/-- What a success lets the world know. -/
def succeedNotices : List Notice :=
  match b.succeeded.2 with
  | none => []
  | some state =>
    b.moved (.log .info "Circuit breaker closed after successful probes" [b.nameField]) state

/-- What a failure lets the world know. -/
def failNotices (now : Duration) : List Notice :=
  match (b.failed now).2 with
  | none => []
  | some (state, failures) =>
    let fields := [b.nameField, ("failures", .number failures.toNat)]
    b.moved (.log .warn "Circuit breaker opened" fields) state

/-- What the outcome of a call lets the world know. -/
def settleNotices (now : Duration) (success : Bool) : List Notice :=
  if success then b.succeedNotices else b.failNotices now

/-- What a refused call lets the world know. -/
def refusal : Notice := .log .debug "Circuit breaker rejecting call" []

/-- What a reset lets the world know: the state before it, and a move only if there was one. -/
def resetNotices : List Notice :=
  .log .info "Circuit breaker reset" [b.nameField, ("from", .text b.state.text)] ::
    -- A breaker that is closed already has its counters cleared, which is no move.
    if b.state = .closed then [] else [.signal (.stateChange b.name .closed)]

/-- The outline of a breaker. -/
def outline : String :=
  Text.outline "CircuitBreaker"
    [("name", Text.quoted b.name), ("policy", b.policy.outline), ("state", b.state.outline),
      ("failure_count", Digits.text b.failures.toNat),
      ("success_count", Digits.text b.successes.toNat)] false

end Breaker

end Safeguard
