import Safeguard.Breaker.State
import Safeguard.Fault

/-!
# Signals

A layer tells what happened to it by signals, each under a name. A list of signals in order of time
is a recording, and the functions of this file are questions about a recording: what was reported
under one name, signal by signal.
-/

namespace Safeguard

/-- What a layer reports. -/
inductive Signal where
  /-- A retry is about to start attempt number `attempt`, which is 2 or more. -/
  | retryAttempt (name : String) (attempt : UInt32)
  /-- A circuit breaker moved to `state`. -/
  | stateChange (name : String) (state : BreakerState)
  /-- A bulkhead refused a call. -/
  | bulkheadRejection (name : String)
  /-- A call, or an attempt beyond its advisory deadline, took this long. -/
  | operationDuration (name : String) (millis : UInt64)
  /-- A call brought a value. -/
  | operationSuccess (name : String)
  /-- A call ended with a fault. -/
  | operationFailure (name : String) (kind : FaultKind)
deriving DecidableEq

namespace Signal

/-- The name under which a signal is reported. -/
def name : Signal → String
  | retryAttempt n _ | stateChange n _ | bulkheadRejection n | operationDuration n _
  | operationSuccess n | operationFailure n _ => n

/-! ## Questions about a recording -/

/-- The signals reported under a name. -/
def under (n : String) (recording : List Signal) : List Signal :=
  recording.filter (·.name == n)

/-- The attempt numbers reported under a name. -/
def retryAttempts (n : String) (recording : List Signal) : List UInt32 :=
  recording.filterMap fun
    | retryAttempt m attempt => if m = n then some attempt else none
    | _ => none

/-- The states that a breaker reported under a name. -/
def stateChanges (n : String) (recording : List Signal) : List BreakerState :=
  recording.filterMap fun
    | stateChange m state => if m = n then some state else none
    | _ => none

/-- The durations reported under a name. -/
def durations (n : String) (recording : List Signal) : List UInt64 :=
  recording.filterMap fun
    | operationDuration m millis => if m = n then some millis else none
    | _ => none

/-- The kinds of fault reported under a name. -/
def failures (n : String) (recording : List Signal) : List FaultKind :=
  recording.filterMap fun
    | operationFailure m kind => if m = n then some kind else none
    | _ => none

/-- How many calls were refused under a name. -/
def rejectionCount (n : String) (recording : List Signal) : Nat :=
  recording.countP (· = bulkheadRejection n)

/-- How many calls brought a value under a name. -/
def successCount (n : String) (recording : List Signal) : Nat :=
  recording.countP (· = operationSuccess n)

end Signal

end Safeguard
