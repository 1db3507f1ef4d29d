import Safeguard.Signal
import Safeguard.Number.Binary64

/-!
# Samples

Each signal as what it adds to a set of instruments: counters, gauges and histograms, told apart by
metric and labels. `Sample.total`, `Sample.level` and `Sample.values` are what an instrument shows
after a list of samples: counters sum up, a gauge keeps the last level, a histogram keeps every
value in order.
-/

namespace Safeguard

/-- What happens to one instrument. -/
inductive Reading where
  /-- A counter goes up. -/
  | increment (amount : Nat)
  /-- A gauge is set. -/
  | set (level : Binary64)
  /-- A histogram gets another value. -/
  | record (value : Binary64)
deriving DecidableEq

/-- One reading of one instrument. -/
structure Sample where
  metric : String
  labels : List (String × String)
  reading : Reading
deriving DecidableEq

namespace Sample

/-- The metric of a signal that counts retries. -/
def retryAttempts : String := "fortify_retry_attempts_total"

/-- The metric that counts moves of breakers, by state. -/
def stateChanges : String := "fortify_circuit_state_changes_total"

/-- The metric that shows the state of each breaker. -/
def stateLevel : String := "fortify_circuit_state"

/-- The metric that counts refusals of bulkheads. -/
def bulkheadRejections : String := "fortify_bulkhead_rejections_total"

/-- The metric that collects durations. -/
def operationDurations : String := "fortify_operation_duration_ms"

/-- The metric that counts calls, by outcome and kind of fault. -/
def operations : String := "fortify_operations_total"

/-- The samples of a signal. -/
def ofSignal : Signal → List Sample
  | .retryAttempt name _ => [⟨retryAttempts, [("name", name)], .increment 1⟩]
  | .stateChange name state =>
    [⟨stateChanges, [("name", name), ("state", state.label)], .increment 1⟩,
      ⟨stateLevel, [("name", name)], .set (.ofNat state.gauge)⟩]
  | .bulkheadRejection name => [⟨bulkheadRejections, [("name", name)], .increment 1⟩]
  | .operationDuration name millis =>
    [⟨operationDurations, [("name", name)], .record (.ofNat millis.toNat)⟩]
  | .operationSuccess name =>
    [⟨operations, [("name", name), ("outcome", "success"), ("kind", "none")], .increment 1⟩]
  | .operationFailure name kind =>
    [⟨operations, [("name", name), ("outcome", "failure"), ("kind", kind.label)], .increment 1⟩]

/-- The samples of a recording. -/
def ofRecording (recording : List Signal) : List Sample := recording.flatMap ofSignal

/-- The readings of one instrument. -/
def readings (metric : String) (labels : List (String × String)) (samples : List Sample) :
    List Reading :=
  (samples.filter fun s => s.metric == metric && s.labels == labels).map (·.reading)

/-- What a counter shows. -/
def total (metric : String) (labels : List (String × String)) (samples : List Sample) : Nat :=
  ((readings metric labels samples).map fun
    | .increment amount => amount
    | _ => 0).foldr (· + ·) 0

/-- What a gauge shows, if it was ever set. -/
def level (metric : String) (labels : List (String × String)) (samples : List Sample) :
    Option Binary64 :=
  ((readings metric labels samples).filterMap fun
    | .set x => some x
    | _ => none).getLast?

/-- What a histogram holds. -/
def values (metric : String) (labels : List (String × String)) (samples : List Sample) :
    List Binary64 :=
  (readings metric labels samples).filterMap fun
    | .record x => some x
    | _ => none

end Sample

end Safeguard
