import Safeguard.Signal

/-!
# Log lines

A layer logs what it does in structured lines: a level, a message and named fields. Signals can be
logged as well, under a target of their own.
-/

namespace Safeguard

/-- How much a log line matters. -/
inductive Level
  | trace
  | debug
  | info
  | warn
deriving DecidableEq

/-- The name of a level. -/
def Level.text : Level → String
  | trace => "TRACE"
  | debug => "DEBUG"
  | info => "INFO"
  | warn => "WARN"

/-- The value of a field of a log line. -/
inductive LogValue where
  | number (n : Nat)
  | text (s : String)
deriving DecidableEq

/-- A structured log line; a line without a target belongs to the layer that wrote it. -/
structure LogLine where
  level : Level
  message : String
  fields : List (String × LogValue)
  target : Option String := none
deriving DecidableEq

/-- The target of logged signals. -/
def Signal.target : String := "fortify::metrics"

/-- A signal as a log line. Refusals and openings are warnings. -/
def Signal.line (s : Signal) : LogLine :=
  let name := ("name", LogValue.text s.name)
  match s with
  | retryAttempt _ attempt =>
    ⟨.debug, "retry attempt", [name, ("attempt", .number attempt.toNat)], some target⟩
  | stateChange _ state =>
    ⟨if state = .opened then .warn else .info, "circuit state change",
      [name, ("state", .text state.label)], some target⟩
  | bulkheadRejection _ => ⟨.warn, "bulkhead rejection", [name], some target⟩
  | operationDuration _ millis =>
    ⟨.trace, "operation duration", [name, ("duration_ms", .number millis.toNat)], some target⟩
  | operationSuccess _ => ⟨.debug, "operation success", [name], some target⟩
  | operationFailure _ kind =>
    ⟨.debug, "operation failure", [name, ("kind", .text kind.label)], some target⟩

/-- What a layer lets the world know: a signal, or a log line. -/
inductive Notice where
  | signal (s : Signal)
  | line (l : LogLine)
deriving DecidableEq

namespace Notice

/-- The signals among notices, in order. -/
def signals (notices : List Notice) : List Signal :=
  notices.filterMap fun
    | signal s => some s
    | line _ => none

/-- The log lines among notices, in order. -/
def lines (notices : List Notice) : List LogLine :=
  notices.filterMap fun
    | signal _ => none
    | line l => some l

/-- The notice of a log line at a level. -/
def log (level : Level) (message : String) (fields : List (String × LogValue)) : Notice :=
  line { level, message, fields }

/-- The signals of two batches of notices come one after the other. -/
theorem signals_append (notices more : List Notice) :
    signals (notices ++ more) = signals notices ++ signals more :=
  List.filterMap_append

/-- A log line is no signal. -/
theorem signals_log (level : Level) (message : String) (fields : List (String × LogValue)) :
    signals [log level message fields] = [] := rfl

end Notice

end Safeguard
