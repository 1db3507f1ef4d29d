import Safeguard.Failure
import Safeguard.Number.Shortest
import Safeguard.Text.Outline

/-!
# Policies of the four layers

A policy holds the tuning of one layer. `validate` finds the first thing wrong with it, as a
`PolicyError`. The backoff of a retry policy is computed in binary64, one rounding per operation:
`RetryPolicy.delayFor` is `min (initialDelay · multiplier ^ (retry - 1)) maxDelay` up to these
roundings.
-/

namespace Safeguard

/-- What can be wrong with a policy. -/
inductive PolicyError where
  | noAttempts
  | multiplierOutOfRange (multiplier : Binary64)
  | delaysCrossed (initial max : Duration)
  | noFailureThreshold
  | noSuccessThreshold
  | noPermits
  | tooManyPermits
  | noTime
deriving DecidableEq

/-- The most permits a bulkhead can hold. -/
def permitLimit : UInt64 := 2305843009213693951

namespace PolicyError

/-- The wording of what is wrong. -/
def message : PolicyError → String
  | noAttempts => "max_attempts must be greater than 0"
  | multiplierOutOfRange m =>
    "backoff_multiplier must be a finite value >= 1.0, got " ++ m.textIn .inFull
  | delaysCrossed initial max =>
    "initial_delay (" ++ initial.text ++ ") must not exceed max_delay (" ++ max.text ++ ")"
  | noFailureThreshold => "failure_threshold must be greater than 0"
  | noSuccessThreshold => "success_threshold must be greater than 0"
  | noPermits => "max_concurrent_calls must be greater than 0"
  | tooManyPermits => "max_concurrent_calls must not exceed " ++ Digits.text permitLimit.toNat
  | noTime => "timeout duration must be greater than 0"

/-- The message with which a policy is refused. -/
def text (e : PolicyError) : String := invalidConfigurationText e.message

end PolicyError

/-! ## Retry -/

/-- The tuning of the retry layer, around operations with errors of type `ε`. -/
structure RetryPolicy (ε : Type := OperationError) where
  /-- The number of attempts, the first one included. -/
  maxAttempts : UInt32
  /-- The delay before the second attempt. -/
  initialDelay : Duration
  /-- The longest delay. -/
  maxDelay : Duration
  /-- The factor by which the delay grows from one retry to the next. -/
  multiplier : Binary64
  /-- Only failures that it accepts are retried; all are if there is none. -/
  predicate : Option (Predicate ε)

namespace RetryPolicy

variable {ε : Type}

/-- Three attempts, 100 ms apart at first, doubling up to a second. -/
def standard : RetryPolicy :=
  ⟨3, .ofMillis 100, .ofMillis 1000, .ofNat 2, none⟩

/-- The first thing wrong with the policy, if there is one. -/
def validate (p : RetryPolicy ε) : Except PolicyError Unit :=
  -- The order of the checks decides which fault is named if there are several.
  if p.maxAttempts = 0 then .error .noAttempts
  else if !p.multiplier.isFinite || p.multiplier.lt (.ofNat 1) then
    .error (.multiplierOutOfRange p.multiplier)
  else if p.maxDelay < p.initialDelay then .error (.delaysCrossed p.initialDelay p.maxDelay)
  else .ok ()

/-- The largest exponent to which the multiplier is raised. -/
def maxExponent : Nat := 2 ^ 31 - 1

/-- The delay before retry number `retry`, counted from one. -/
def delayFor (p : RetryPolicy ε) (retry : UInt32) : Duration :=
  -- All of this is computed in binary64, so the power and the product may overflow.
  let grown := Binary64.ofNat p.initialDelay.nanos *
    p.multiplier.pow (min (retry.toNat - 1) maxExponent)
  -- What is no number is taken for an overflow as well.
  if !grown.isFinite || (Binary64.ofNat p.maxDelay.nanos).le grown then p.maxDelay
  else .ofNanos grown.roundToWord

/-- Whether a failure may be retried, the number of attempts aside. -/
def accepts (p : RetryPolicy ε) (f : Failure ε) : Bool :=
  match p.predicate with
  | none => true
  | some q => q f

/-- The policy for attempts that a layer wraps. -/
def unwrapping (p : RetryPolicy ε) : RetryPolicy ε :=
  { p with predicate := p.predicate.map Predicate.unwrapping }

/-- The policy for attempts that a layer wraps asks about the failure as it was. -/
theorem accepts_unwrapping (p : RetryPolicy ε) (f : Failure ε) :
    p.unwrapping.accepts f = p.accepts f.unwrapped := by
  unfold accepts unwrapping
  cases p.predicate <;> rfl

/-- The outline of the policy. -/
def outline (p : RetryPolicy ε) : String :=
  Text.outline "RetryPolicy"
    [("max_attempts", Digits.text p.maxAttempts.toNat),
      ("initial_delay", p.initialDelay.text),
      ("max_delay", p.maxDelay.text),
      ("backoff_multiplier", p.multiplier.textIn .inOutline),
      ("retry_predicate", Text.outlineOption (p.predicate.map fun _ => "\"<fn>\""))] true

end RetryPolicy

/-! ## Circuit breaker -/

/-- The tuning of a circuit breaker. -/
structure BreakerPolicy where
  /-- The failures in a row that open the closed circuit. -/
  failureThreshold : UInt32
  /-- The time an open circuit stays open. -/
  resetTimeout : Duration
  /-- The successes that close the half-open circuit. -/
  successThreshold : UInt32
deriving DecidableEq

namespace BreakerPolicy

/-- Five failures open for a minute, two successes close. -/
def standard : BreakerPolicy := ⟨5, .ofSeconds 60, 2⟩

/-- The first thing wrong with the policy, if there is one. -/
def validate (p : BreakerPolicy) : Except PolicyError Unit :=
  if p.failureThreshold = 0 then .error .noFailureThreshold
  else if p.successThreshold = 0 then .error .noSuccessThreshold
  else .ok ()

/-- The outline of the policy. -/
def outline (p : BreakerPolicy) : String :=
  Text.outline "CircuitBreakerPolicy"
    [("failure_threshold", Digits.text p.failureThreshold.toNat),
      ("reset_timeout", p.resetTimeout.text),
      ("success_threshold", Digits.text p.successThreshold.toNat)] true

end BreakerPolicy

/-! ## Bulkhead -/

/-- The tuning of a bulkhead. -/
structure BulkheadPolicy where
  /-- The number of calls that may be in flight at once. -/
  maxConcurrent : UInt64
deriving DecidableEq

namespace BulkheadPolicy

/-- Ten calls at once. -/
def standard : BulkheadPolicy := ⟨10⟩

/-- The first thing wrong with the policy, if there is one. -/
def validate (p : BulkheadPolicy) : Except PolicyError Unit :=
  if p.maxConcurrent = 0 then .error .noPermits
  else if permitLimit < p.maxConcurrent then .error .tooManyPermits
  else .ok ()

/-- The outline of the policy. -/
def outline (p : BulkheadPolicy) : String :=
  Text.outline "BulkheadPolicy" [("max_concurrent_calls", Digits.text p.maxConcurrent.toNat)] true

end BulkheadPolicy

/-! ## Timeout -/

/-- What happens to an attempt that outlives its deadline. -/
inductive TimeoutMode where
  /-- The attempt is dropped and fails. -/
  | cancel
  /-- The attempt runs on, and the overrun is reported. -/
  | advisory
deriving DecidableEq

namespace TimeoutMode

/-- The keyword of a mode. -/
def keyword : TimeoutMode → String
  | cancel => "cancel"
  | advisory => "advisory"

/-- The name of a mode in outlines. -/
def outline : TimeoutMode → String
  | cancel => "Cancel"
  | advisory => "Advisory"

/-- The mode with a given keyword. -/
def ofKeyword? (s : String) : Option TimeoutMode := [cancel, advisory].find? (·.keyword == s)

end TimeoutMode

/-- The deadline of one attempt. -/
structure TimeoutPolicy where
  limit : Duration
  mode : TimeoutMode
deriving DecidableEq

namespace TimeoutPolicy

/-- The first thing wrong with the policy, if there is one. -/
def validate (p : TimeoutPolicy) : Except PolicyError Unit :=
  if p.limit = .zero then .error .noTime else .ok ()

/-- The outline of the policy. -/
def outline (p : TimeoutPolicy) : String :=
  Text.outline "TimeoutPolicy" [("duration", p.limit.text), ("mode", p.mode.outline)] true

end TimeoutPolicy

/-! ## Sets of layers -/

/-- Which layers guard one call. -/
structure Options where
  retry : Option RetryPolicy
  breaker : Option BreakerPolicy
  bulkhead : Option BulkheadPolicy
  timeout : Option TimeoutPolicy

namespace Options

/-- No layer at all. -/
def none : Options := ⟨.none, .none, .none, .none⟩

/-- A deadline alone. -/
def timeoutOnly (p : TimeoutPolicy) : Options := { none with timeout := some p }

/-- Whether no layer is chosen. -/
def isEmpty (o : Options) : Bool :=
  o.retry.isNone && o.breaker.isNone && o.bulkhead.isNone && o.timeout.isNone

end Options

/-- The policies of layers that a call asks for without tuning them. -/
structure Defaults where
  retry : RetryPolicy
  breaker : BreakerPolicy
  bulkhead : BulkheadPolicy
  timeout : Option TimeoutPolicy

namespace Defaults

/-- The standard policies, and no deadline. -/
def standard : Defaults := ⟨.standard, .standard, .standard, none⟩

/-- The first thing wrong with one of the policies, if there is one. -/
def validate (d : Defaults) : Except PolicyError Unit := do
  d.retry.validate
  d.breaker.validate
  d.bulkhead.validate
  match d.timeout with
  | none => .ok ()
  | some t => t.validate

/-- Retries alone. -/
def retryOnly (d : Defaults) : Options := { Options.none with retry := some d.retry }

/-- A circuit breaker alone. -/
def breakerOnly (d : Defaults) : Options := { Options.none with breaker := some d.breaker }

/-- A bulkhead alone. -/
def bulkheadOnly (d : Defaults) : Options := { Options.none with bulkhead := some d.bulkhead }

/-- Every layer with its default policy; a deadline only if there is one. -/
def options (d : Defaults) : Options :=
  ⟨some d.retry, some d.breaker, some d.bulkhead, d.timeout⟩

/-- The outline of the policies. -/
def outline (d : Defaults) : String :=
  Text.outline "ResilienceDefaults"
    [("retry", d.retry.outline), ("circuit_breaker", d.breaker.outline),
      ("bulkhead", d.bulkhead.outline),
      ("timeout", Text.outlineOption (d.timeout.map TimeoutPolicy.outline))] true

end Defaults

end Safeguard
