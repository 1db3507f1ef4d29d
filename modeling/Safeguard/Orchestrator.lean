import Safeguard.Layer.Deadline
import Safeguard.Layer.Protection
import Safeguard.Layer.Retry
import Safeguard.World

/-!
# Calls under several layers

An orchestrated call runs an operation under the layers its options ask for. From the outside in
these are the bulkhead, the circuit breaker, the retries and the deadline of each attempt. Every
layer's faults are brought to one level, so the result names the layer that decided. The duration
and the outcome of each call are reported under its name.

The breaker and the bulkhead of a name are made by the first call that asks for them and keep that
call's policy.
-/

namespace Safeguard

/-- The layers of one call, with the instances that were found for it. -/
structure Layers where
  bulkhead : Option Nat
  breaker : Option Nat
  deadline : Option Deadline
  /-- The name and the policy of the retries. -/
  retry : Option (String × RetryPolicy)

namespace Orchestrator

variable {β γ : Type}

/-- Looks something up for a layer that is asked for. -/
def findFor {π α : Type} (find : π → Activity β (Except PolicyError α)) :
    Option π → Activity β (Except PolicyError (Option α))
  | none => .pure (.ok none)
  | some policy => (find policy).map fun answer => answer.map some

/-- The layers that the options of a call ask for. The policies are checked and the instances found
in a fixed order: bulkhead, breaker, deadline, retries. The first policy that is not in order ends
it, and instances that were made before stay. -/
def resolve (name : String) (options : Options) : Activity β (Except PolicyError Layers) :=
  (findFor (fun p => .perform (.findBulkhead (bulkheadKey name) p)) options.bulkhead).bindOk
    fun bulkhead =>
  (findFor (fun p => .perform (.findBreaker (breakerKey name) p)) options.breaker).bindOk
    fun breaker =>
  (findFor (fun p => .pure (Deadline.make (timeoutKey name) p)) options.timeout).bindOk
    fun deadline =>
  -- The attempts fail with the fault of a layer, so the retries ask about it unwrapped.
  (findFor (fun p => .pure (p.validate.map fun _ => (retryKey name, p.unwrapping)))
    options.retry).bindOk
    fun retry =>
  .pure (.ok ⟨bulkhead, breaker, deadline, retry⟩)

/-- One level of fault out of the two of a layer around another. -/
def flattened (x : Activity β (Except (Fault (Fault OperationError)) γ)) :
    Activity β (Except (Fault OperationError) γ) :=
  x.map fun result => result.mapError .flatten

/-- One attempt, under its deadline if there is one. -/
def attempt (deadline : Option Deadline) (operation : Activity β (Except OperationError γ)) :
    Activity β (Except (Fault OperationError) γ) :=
  match deadline with
  | some d => d.guard operation
  | none => operation.map fun result => result.mapError .operation

/-- The operation under the layers of its call. -/
def layered (layers : Layers) (operation : Activity β (Except OperationError γ)) :
    Activity β (Except (Fault OperationError) γ) :=
  -- From the inside out: an attempt with its deadline, the retries around it, the breaker around
  -- all of them, and the bulkhead around everything.
  let attempted := attempt layers.deadline operation
  let retried :=
    match layers.retry with
    | some (name, policy) => flattened (Retry.run name policy attempted)
    | none => attempted
  let broken :=
    match layers.breaker with
    | some i => flattened (underBreaker i retried)
    | none => retried
  match layers.bulkhead with
  | some i => flattened (underBulkhead i broken)
  | none => broken

/-- What a finished call lets the world know. -/
def report (name : String) (millis : Nat) (result : Except (Fault OperationError) γ) :
    List Notice :=
  let word := millisWord millis
  let duration := ("duration_ms", LogValue.number word.toNat)
  .signal (.operationDuration name word) ::
    match result with
    | .ok _ =>
      [.log .debug "Operation completed" [duration], .signal (.operationSuccess name)]
    | .error fault =>
      [.log .warn "Operation failed"
          [duration, ("kind", .text fault.kind.label), ("error", .text fault.text)],
        .signal (.operationFailure name fault.kind)]

/-- A call under a name. -/
def call (name : String) (options : Options) (operation : Activity β (Except OperationError γ)) :
    Activity β (Except (Fault OperationError) γ) :=
  .act .clock fun (began : Nat) =>
    -- The time that a call takes counts from before its layers are looked for.
    ((resolve name options).bind fun
      | .error e => .pure (.error (.invalidConfiguration e.message))
      | .ok layers => layered layers operation).bind fun result =>
    .act .clock fun (now : Nat) =>
      .telling (report name (now - began) result) (.pure result)

/-- The outline of an orchestrator whose signals go nowhere. -/
def outline (registry : Registry) (defaults : Defaults) : String :=
  Text.outline "ResilienceOrchestrator"
    [("registry", registry.outline), ("defaults", defaults.outline),
      ("metrics", "NoOpMetricsCollector")] false

end Orchestrator

namespace World

variable (w : World)

/-! ## Administration

Breakers and bulkheads are asked for by their keys. -/

/-- The breaker under a key. -/
def breaker? (key : String) : Option Breaker :=
  (w.registry.breakers.find? key).bind (w.breakers[·]?)

/-- The bulkhead under a key. -/
def bulkhead? (key : String) : Option Bulkhead :=
  (w.registry.bulkheads.find? key).bind (w.bulkheads[·]?)

/-- Every registered breaker, in the order of the keys. -/
def breakersByKey : List (String × Breaker) :=
  w.registry.breakers.entries.filterMap fun (key, i) => (w.breakers[i]?).map (key, ·)

/-- Every registered bulkhead, in the order of the keys. -/
def bulkheadsByKey : List (String × Bulkhead) :=
  w.registry.bulkheads.entries.filterMap fun (key, i) => (w.bulkheads[i]?).map (key, ·)

/-- Resets the breaker under a key; says whether there was one. -/
def resetKey (key : String) : Bool × World :=
  match w.registry.breakers.find? key with
  | none => (false, w)
  | some i =>
    (true, (w.resetBreaker i).tell
      [.log .info "Circuit breaker reset by operator" [("key", .text key)]])

/-- Resets every registered breaker, in the order of the keys. -/
def resetAll : World :=
  -- The number that is logged is that of the entries, open or not.
  let entries := w.registry.breakers.entries
  (entries.foldl (fun w (_, i) => w.resetBreaker i) w).tell
    [.log .info "All circuit breakers reset" [("count", .number entries.length)]]

end World

end Safeguard
