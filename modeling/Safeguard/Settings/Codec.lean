import Safeguard.Document.Codec
import Safeguard.Settings

/-!
# Settings in documents

The names under which settings are kept in a document. Spans of time are kept in whole milliseconds,
and a deadline that is not set is left out.
-/

namespace Safeguard

/-- The fields of the retry section. -/
def RetrySettings.fields : List (Field RetrySettings) :=
  [.ofValue "max_attempts" (·.toWord32?) (.ofWord ·.toNat) (·.maxAttempts)
      fun a s => { s with maxAttempts := a },
    .ofValue "initial_delay_ms" (·.toMillis?) .ofMillis (·.initialDelay)
      fun a s => { s with initialDelay := a },
    .ofValue "max_delay_ms" (·.toMillis?) .ofMillis (·.maxDelay)
      fun a s => { s with maxDelay := a },
    .ofValue "backoff_multiplier" (·.toDouble?) .double (·.multiplier)
      fun a s => { s with multiplier := a }]

/-- The fields of the circuit breaker section. -/
def BreakerSettings.fields : List (Field BreakerSettings) :=
  [.ofValue "failure_threshold" (·.toWord32?) (.ofWord ·.toNat) (·.failureThreshold)
      fun a s => { s with failureThreshold := a },
    .ofValue "reset_timeout_ms" (·.toMillis?) .ofMillis (·.resetTimeout)
      fun a s => { s with resetTimeout := a },
    .ofValue "success_threshold" (·.toWord32?) (.ofWord ·.toNat) (·.successThreshold)
      fun a s => { s with successThreshold := a }]

/-- The fields of the bulkhead section. -/
def BulkheadSettings.fields : List (Field BulkheadSettings) :=
  [.ofValue "max_concurrent_calls" (·.toWord64?) (.ofWord ·.toNat) (·.maxConcurrent)
      fun a s => { s with maxConcurrent := a }]

/-- The fields of the timeout section. -/
def TimeoutSettings.fields : List (Field TimeoutSettings) :=
  [{ name := "duration_ms"
     read := fun _ v s =>
       (v.toOptional? (·.toMillis?)).map fun limit => { s with limit }
     write := fun s => s.limit.map .ofMillis },
    { name := "mode"
      read := fun d v s => (v.toKeyword? d TimeoutMode.ofKeyword?).map fun mode => { s with mode }
      write := fun s => some (.text s.mode.keyword) }]

namespace Settings

/-- The sections. -/
def fields : List (Field Settings) :=
  [.ofSection "retry" RetrySettings.fields .standard (·.retry) fun t s => { s with retry := t },
    .ofSection "circuit_breaker" BreakerSettings.fields .standard (·.breaker)
      fun t s => { s with breaker := t },
    .ofSection "bulkhead" BulkheadSettings.fields .standard (·.bulkhead)
      fun t s => { s with bulkhead := t },
    .ofSection "timeout" TimeoutSettings.fields .standard (·.timeout)
      fun t s => { s with timeout := t }]

/-- The settings that a document describes. -/
def ofDocument? (d : Dialect) (v : Document) : Option Settings := Field.readAll fields d v standard

/-- The document of settings. -/
def toDocument (s : Settings) : Document := Field.writeAll fields s

end Settings

end Safeguard
