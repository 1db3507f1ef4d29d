import Safeguard.Activity
import Safeguard.Breaker

/-!
# Operations under a breaker or a bulkhead

Both layers ask for admission, run the operation if they get it, and say so at its end: a breaker
records the outcome, a bulkhead gets its permit back. A panic records nothing, but gives the permit
back.
-/

namespace Safeguard

variable {β γ ε : Type}

/-- The operation under breaker number `breaker`. -/
def underBreaker [Cause ε] (breaker : Nat) (operation : Activity β (Except ε γ)) :
    Activity β (Except (Fault ε) γ) :=
  .act (.acquire breaker) fun
    | .error rejection => .telling [Breaker.refusal] (.pure (.error rejection.fault))
    | .ok () => operation.bind fun
      | .ok v => .act (.settle breaker true) fun _ => .pure (.ok v)
      | .error e => .act (.settle breaker false) fun _ =>
        .telling
          [.log .debug "Circuit breaker recorded failure" [("error", .text (Cause.message e))]]
          (.pure (.error (.operation e)))

/-- The operation under bulkhead number `bulkhead`. -/
def underBulkhead (bulkhead : Nat) (operation : Activity β (Except ε γ)) :
    Activity β (Except (Fault ε) γ) :=
  .act (.enter bulkhead) fun
    | .error rejection => .pure (.error rejection.fault)
    | .ok () => (operation.map fun result => result.mapError .operation).holding bulkhead

end Safeguard
