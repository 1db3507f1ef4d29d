import Safeguard.Breaker
import Safeguard.Outcome
import Safeguard.Time.Clock

/-!
# Histories of one breaker

A `Session` is a breaker with the clock that drives it, and what it has let the world know so far.
`Session.perform` does one operation and says what it answers; `Session.run` does a list of them.
Outcomes may be recorded without an admission or long after it.
-/

namespace Safeguard.Breaker

/-- What can be done to a breaker and its clock. -/
inductive Operation (β : Type) where
  /-- Ask for admission. -/
  | tryAcquire
  /-- Run an asynchronous operation under the breaker. -/
  | execute (outcome : Outcome β)
  /-- Run a synchronous operation under the breaker. -/
  | call (outcome : Outcome β)
  | recordSuccess
  | recordFailure
  | reset
  /-- Move the clock. -/
  | advance (span : Duration)

/-- What an operation answers. -/
inductive Answer (β : Type) where
  | admitted (yes : Bool)
  | ended (ending : Ending (Except (Fault OperationError) β))
  | done
  /-- The clock cannot be moved that far. -/
  | outOfRange
deriving DecidableEq

/-- A breaker under a clock. -/
structure Session where
  clock : Clock
  breaker : Breaker
  /-- How often an operation was run under the breaker. -/
  invocations : Nat
  notices : List Notice

namespace Session

/-- A session that begins with a given breaker. -/
def start (b : Breaker) : Session := ⟨.start, b, 0, []⟩

variable (s : Session)

/-- The session with another breaker and more notices. -/
def become (b : Breaker) (notices : List Notice) : Session :=
  { s with breaker := b, notices := s.notices ++ notices }

/-- A call asks for admission. -/
def acquire : Session :=
  s.become (s.breaker.acquire s.clock.now) (s.breaker.acquireNotices s.clock.now)

/-- The outcome of a call is recorded. -/
def settle (success : Bool) : Session :=
  s.become (s.breaker.settle s.clock.now success) (s.breaker.settleNotices s.clock.now success)

/-- An operation runs under the breaker and its outcome is recorded; `logged` says whether a failure
is logged as well. A refused call does not run it, and a panic leaves nothing to record. -/
def guard {β : Type} (logged : Bool) (outcome : Outcome β) : Answer β × Session :=
  if s.breaker.admits s.clock.now then
    let s := { s.acquire with invocations := s.invocations + 1 }
    match outcome with
    | .value v => (.ended (.returned (.ok v)), s.settle true)
    | .error e =>
      let s := s.settle false
      let line := Notice.log .debug "Circuit breaker recorded failure" [("error", .text e.message)]
      (.ended (.returned (.error (.operation e))),
        s.become s.breaker (if logged then [line] else []))
    | .panic message => (.ended (.panicked message), s)
  else
    let s := s.acquire
    (.ended (.returned (.error (.circuitOpen s.breaker.name))), s.become s.breaker [refusal])

/-- One operation: its answer and the session after it. -/
def perform {β : Type} : Operation β → Answer β × Session
  | .tryAcquire => (.admitted (s.breaker.admits s.clock.now), s.acquire)
  | .execute outcome => s.guard true outcome
  | .call outcome => s.guard false outcome
  | .recordSuccess => (.done, s.settle true)
  | .recordFailure => (.done, s.settle false)
  | .reset => (.done, s.become s.breaker.reset s.breaker.resetNotices)
  | .advance span =>
    match s.clock.advance? span with
    | some clock => (.done, { s with clock })
    | none => (.outOfRange, s)

/-- A list of operations, one after another: their answers and the session after the last. -/
def run {β : Type} (s : Session) : List (Operation β) → List (Answer β) × Session
  | [] => ([], s)
  | op :: ops =>
    let (answer, s) := s.perform op
    let (answers, s) := s.run ops
    (answer :: answers, s)

end Session

end Safeguard.Breaker
