import Safeguard.Policy

/-!
# Settings

The settings are what a configuration source can tune: one section for each layer, every value with
a standard. `Settings.validate` finds the first value that is out of order, and
`Settings.toDefaults` turns settings into the policies of the layers.
-/

namespace Safeguard

/-- The settings of the retry layer. -/
structure RetrySettings where
  maxAttempts : UInt32
  initialDelay : Duration
  maxDelay : Duration
  multiplier : Binary64
deriving DecidableEq

/-- The settings of the circuit breaker. -/
structure BreakerSettings where
  failureThreshold : UInt32
  resetTimeout : Duration
  successThreshold : UInt32
deriving DecidableEq

/-- The settings of the bulkhead. -/
structure BulkheadSettings where
  maxConcurrent : UInt64
deriving DecidableEq

/-- The settings of the timeout layer. -/
structure TimeoutSettings where
  /-- The deadline; there is none unless it is set. -/
  limit : Option Duration
  mode : TimeoutMode
deriving DecidableEq

/-- All settings. -/
structure Settings where
  retry : RetrySettings
  breaker : BreakerSettings
  bulkhead : BulkheadSettings
  timeout : TimeoutSettings
deriving DecidableEq

/-- What can be wrong with settings. -/
inductive SettingsError where
  | noAttempts
  | multiplierOutOfRange (multiplier : Binary64)
  | delaysCrossed
  | noFailureThreshold
  | noSuccessThreshold
  | noPermits
  | noTime
deriving DecidableEq

/-- The wording of what is wrong, with the name of the setting. -/
def SettingsError.message : SettingsError → String
  | noAttempts => "retry.max_attempts must be greater than 0"
  | multiplierOutOfRange m =>
    "retry.backoff_multiplier must be a finite value >= 1.0, got " ++ m.textIn .inFull
  | delaysCrossed => "retry.initial_delay_ms must not exceed retry.max_delay_ms"
  | noFailureThreshold => "circuit_breaker.failure_threshold must be greater than 0"
  | noSuccessThreshold => "circuit_breaker.success_threshold must be greater than 0"
  | noPermits => "bulkhead.max_concurrent_calls must be greater than 0"
  | noTime => "timeout.duration_ms must be greater than 0"

namespace RetrySettings

/-- Three attempts, 100 ms apart at first, doubling up to a second. -/
def standard : RetrySettings := ⟨3, .ofMillis 100, .ofMillis 1000, .ofNat 2⟩

/-- The first setting out of order, if there is one. -/
def validate (s : RetrySettings) : Except SettingsError Unit :=
  if s.maxAttempts = 0 then .error .noAttempts
  else if !s.multiplier.isFinite || s.multiplier.lt (.ofNat 1) then
    .error (.multiplierOutOfRange s.multiplier)
  else if s.maxDelay < s.initialDelay then .error .delaysCrossed
  else .ok ()

end RetrySettings

namespace BreakerSettings

/-- Five failures open for a minute, two successes close. -/
def standard : BreakerSettings := ⟨5, .ofMillis 60000, 2⟩

/-- The first setting out of order, if there is one. -/
def validate (s : BreakerSettings) : Except SettingsError Unit :=
  if s.failureThreshold = 0 then .error .noFailureThreshold
  else if s.successThreshold = 0 then .error .noSuccessThreshold
  else .ok ()

end BreakerSettings

namespace BulkheadSettings

/-- Ten calls at once. -/
def standard : BulkheadSettings := ⟨10⟩

/-- The first setting out of order, if there is one. -/
def validate (s : BulkheadSettings) : Except SettingsError Unit :=
  if s.maxConcurrent = 0 then .error .noPermits else .ok ()

end BulkheadSettings

namespace TimeoutSettings

/-- No deadline; if one is set, attempts are dropped at it. -/
def standard : TimeoutSettings := ⟨none, .cancel⟩

/-- The first setting out of order, if there is one. -/
def validate (s : TimeoutSettings) : Except SettingsError Unit :=
  if s.limit = some .zero then .error .noTime else .ok ()

end TimeoutSettings

namespace Settings

/-- The standard of every section. -/
def standard : Settings := ⟨.standard, .standard, .standard, .standard⟩

variable (s : Settings)

/-- The first setting out of order, if there is one. -/
def validate : Except SettingsError Unit := do
  s.retry.validate
  s.breaker.validate
  s.bulkhead.validate
  s.timeout.validate

/-- The policies that the settings describe. -/
def policies : Defaults where
  retry := ⟨s.retry.maxAttempts, s.retry.initialDelay, s.retry.maxDelay, s.retry.multiplier, none⟩
  breaker := ⟨s.breaker.failureThreshold, s.breaker.resetTimeout, s.breaker.successThreshold⟩
  bulkhead := ⟨s.bulkhead.maxConcurrent⟩
  timeout := s.timeout.limit.map fun limit => ⟨limit, s.timeout.mode⟩

/-- Whether two settings are the same, the multiplier compared as a number. -/
def same (t : Settings) : Bool :=
  s.retry.multiplier.eqv t.retry.multiplier &&
    { s with retry.multiplier := .nan } == { t with retry.multiplier := .nan }

end Settings

end Safeguard
