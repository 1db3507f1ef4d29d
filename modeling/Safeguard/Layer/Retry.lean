import Safeguard.Activity
import Safeguard.Failure

/-!
# The retry layer

An operation is attempted until it brings a value, until a failure is not worth another attempt, or
until the attempts are used up. Between two attempts there is a delay that the policy computes, and
each further attempt is reported right before it begins. A failure that the policy does not accept
is returned as it is, also by the last attempt.
-/

namespace Safeguard.Retry

variable {β γ ε : Type} [Seen ε]

/-- Lets the world know of a value, if it came after retries. -/
def success (made : UInt32) (v : γ) : Activity β (Except (Fault ε) γ) :=
  if made = 0 then .pure (.ok v)
  else
    .telling
      [.log .debug "Operation succeeded after retrying" [("retries", .number made.toNat)]]
      (.pure (.ok v))

/-- Gives up on a failure that is not worth another attempt. -/
def refuse (attempt : UInt32) (e : ε) : Activity β (Except (Fault ε) γ) :=
  .telling
    [.log .debug "Failure is not retryable"
      [("attempt", .number attempt.toNat), ("error", .text (Cause.message e))]]
    (.pure (.error (.operation e)))

/-- Gives up because the attempts are used up. -/
def exhaust (name : String) (attempt : UInt32) (e : ε) : Activity β (Except (Fault ε) γ) :=
  .telling
    [.log .warn "Retry attempts exhausted"
      [("attempts", .number attempt.toNat), ("error", .text (Cause.message e))]]
    (.pure (.error (.retryExhausted name attempt (.operation e))))

/-- Waits before the next attempt, reports it and begins it. -/
def again (name : String) (policy : RetryPolicy) (attempt : UInt32) (e : ε)
    (next : Activity β (Except (Fault ε) γ)) : Activity β (Except (Fault ε) γ) :=
  let delay := policy.delayFor attempt
  .telling
    [.log .debug "Operation failed, retrying"
      [("attempt", .number attempt.toNat), ("delay", .text delay.text),
        ("error", .text (Cause.message e))]]
    ((Activity.sleep false delay.sleepMillis).bind fun _ =>
      .telling [.signal (.retryAttempt name (attempt + 1))] next)

/-- The attempts that follow `made` earlier ones, of which `left` may follow the next one. -/
def attempts (name : String) (policy : RetryPolicy) (operation : Activity β (Except ε γ)) :
    (left : Nat) → (made : UInt32) → Activity β (Except (Fault ε) γ)
  | 0, made => operation.bind fun
    | .ok v => success made v
    | .error e =>
      if policy.accepts (Seen.failure e) then exhaust name (made + 1) e else refuse (made + 1) e
  | left + 1, made => operation.bind fun
    | .ok v => success made v
    | .error e =>
      if policy.accepts (Seen.failure e) then
        again name policy (made + 1) e (attempts name policy operation left (made + 1))
      else refuse (made + 1) e

/-- An operation under a retry policy, with its own faults kept apart from those of the operation. A
policy that is not in order is refused before anything runs. -/
def run (name : String) (policy : RetryPolicy) (operation : Activity β (Except ε γ)) :
    Activity β (Except (Fault ε) γ) :=
  match policy.validate with
  | .error e => .pure (.error (.invalidConfiguration e.message))
  | .ok () => attempts name policy operation (policy.maxAttempts.toNat - 1) 0

end Safeguard.Retry
