import Safeguard.Environment
import Safeguard.Number.Reading
import Safeguard.Settings.Mode

/-!
# Settings from the environment

Ten variables override one setting each. They are read in a fixed order, and the first that cannot
be read decides; what is not set keeps its standard.
-/

namespace Safeguard

/-- New values for some of the settings; spans of time are in milliseconds. -/
structure Overrides where
  maxAttempts : Option UInt32
  initialDelay : Option UInt64
  maxDelay : Option UInt64
  multiplier : Option Binary64
  failureThreshold : Option UInt32
  resetTimeout : Option UInt64
  successThreshold : Option UInt32
  maxConcurrent : Option UInt64
  limit : Option UInt64
  mode : Option TimeoutMode
deriving DecidableEq

namespace Overrides

/-- The settings with the new values. -/
def applyTo (o : Overrides) (s : Settings) : Settings where
  retry := {
    maxAttempts := o.maxAttempts.getD s.retry.maxAttempts
    initialDelay := (o.initialDelay.map .ofMillis).getD s.retry.initialDelay
    maxDelay := (o.maxDelay.map .ofMillis).getD s.retry.maxDelay
    multiplier := o.multiplier.getD s.retry.multiplier }
  breaker := {
    failureThreshold := o.failureThreshold.getD s.breaker.failureThreshold
    resetTimeout := (o.resetTimeout.map .ofMillis).getD s.breaker.resetTimeout
    successThreshold := o.successThreshold.getD s.breaker.successThreshold }
  bulkhead := ⟨o.maxConcurrent.getD s.bulkhead.maxConcurrent⟩
  timeout := {
    limit := (o.limit.map .ofMillis).or s.timeout.limit
    mode := o.mode.getD s.timeout.mode }

end Overrides

namespace Environment

/-- The names of the variables for settings, in the order in which they are read. -/
def settingNames : List String :=
  ["FORTIFY_RETRY_MAX_ATTEMPTS", "FORTIFY_RETRY_INITIAL_DELAY_MS", "FORTIFY_RETRY_MAX_DELAY_MS",
    "FORTIFY_RETRY_BACKOFF_MULTIPLIER", "FORTIFY_CB_FAILURE_THRESHOLD",
    "FORTIFY_CB_RESET_TIMEOUT_MS", "FORTIFY_CB_SUCCESS_THRESHOLD",
    "FORTIFY_BULKHEAD_MAX_CONCURRENT_CALLS", "FORTIFY_TIMEOUT_MS", "FORTIFY_TIMEOUT_MODE"]

variable (env : Environment)

/-- Whether a variable for a setting is there, whatever its value. -/
def hasSettings : Bool := settingNames.any env.isSet

/-- A 32-bit word under a name. -/
def word32? (name : String) : Except SetupError (Option UInt32) :=
  (env.read? name (Digits.read (2 ^ 32 - 1)) WordError.message).map (·.map UInt32.ofNat)

/-- A 64-bit word under a name. -/
def word64? (name : String) : Except SetupError (Option UInt64) :=
  (env.read? name (Digits.read (2 ^ 64 - 1)) WordError.message).map (·.map UInt64.ofNat)

/-- The overrides in an environment. -/
def overrides : Except SetupError Overrides := do
  return {
    maxAttempts := ← env.word32? "FORTIFY_RETRY_MAX_ATTEMPTS"
    initialDelay := ← env.word64? "FORTIFY_RETRY_INITIAL_DELAY_MS"
    maxDelay := ← env.word64? "FORTIFY_RETRY_MAX_DELAY_MS"
    multiplier :=
      ← env.read? "FORTIFY_RETRY_BACKOFF_MULTIPLIER" Binary64.read Binary64.ReadError.message
    failureThreshold := ← env.word32? "FORTIFY_CB_FAILURE_THRESHOLD"
    resetTimeout := ← env.word64? "FORTIFY_CB_RESET_TIMEOUT_MS"
    successThreshold := ← env.word32? "FORTIFY_CB_SUCCESS_THRESHOLD"
    maxConcurrent := ← env.word64? "FORTIFY_BULKHEAD_MAX_CONCURRENT_CALLS"
    limit := ← env.word64? "FORTIFY_TIMEOUT_MS"
    mode := ← env.read? "FORTIFY_TIMEOUT_MODE" TimeoutMode.read TimeoutMode.ReadError.message }

/-- The settings that an environment describes. -/
def settings : Except SetupError Settings := do
  (← env.overrides).applyTo .standard |>.checked

end Environment

end Safeguard
