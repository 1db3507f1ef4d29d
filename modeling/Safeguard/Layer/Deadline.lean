import Safeguard.Activity
import Safeguard.Time.Millis

/-!
# The timeout layer

One attempt under a deadline. In `cancel` mode the attempt is dropped when its time is up and the
call fails; in `advisory` mode it runs on, and an overrun is measured and reported.
-/

namespace Safeguard

/-- A deadline with a name to report under. -/
structure Deadline where
  name : String
  policy : TimeoutPolicy
deriving DecidableEq

namespace Deadline

/-- A deadline with a policy that is in order. -/
def make (name : String) (policy : TimeoutPolicy) : Except PolicyError Deadline := do
  policy.validate
  return ⟨name, policy⟩

variable {β γ ε : Type} (d : Deadline)

/-- The fields that every log line of a deadline has. -/
def fields : List (String × LogValue) :=
  [("operation", .text d.name), ("timeout", .text d.policy.limit.text)]

/-- What an attempt that was dropped lets the world know. -/
def expiry : List Notice := [.log .warn "Attempt timed out and was cancelled" d.fields]

/-- What an attempt of `millis` milliseconds lets the world know when it runs on: something only if
it took longer than its deadline. -/
def overrun (millis : Nat) : List Notice :=
  if d.policy.limit.nanos < millis * 10 ^ 6 then
    let word := millisWord millis
    [.log .warn "Attempt exceeded its advisory timeout"
        (d.fields ++ [("elapsed_ms", .number word.toNat)]),
      .signal (.operationDuration d.name word)]
  else []

/-- The operation, dropped when its time is up. -/
def cancelling (operation : Activity β (Except ε γ)) : Activity β (Except (Fault ε) γ) :=
  (operation.deadline d.policy.limit.ceilMillis).bind fun
    | some result => .pure (result.mapError .operation)
    | none => .telling d.expiry (.pure (.error (.timedOut d.policy.limit)))

/-- The operation, measured. -/
def advising (operation : Activity β (Except ε γ)) : Activity β (Except (Fault ε) γ) :=
  .act .clock fun (began : Nat) =>
    operation.bind fun result =>
      .act .clock fun (now : Nat) =>
        .telling (d.overrun (now - began)) (.pure (result.mapError .operation))

/-- The operation under its deadline. -/
def guard (operation : Activity β (Except ε γ)) : Activity β (Except (Fault ε) γ) :=
  match d.policy.mode with
  | .cancel => d.cancelling operation
  | .advisory => d.advising operation

end Deadline

end Safeguard
