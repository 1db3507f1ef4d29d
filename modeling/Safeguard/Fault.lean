import Safeguard.Time.Duration

/-!
# Faults of a guarded call

A `Fault ε` says why a guarded call brought no value: a layer refused it, a layer gave up on it, or
the operation failed with an error of its own, which is of type `ε` and kept untouched. A layer
around another layer meets the inner layer's faults as its operation's errors; `Fault.flatten` makes
one level of the two again.

`Fault.operationError` finds the operation's error below any number of exhausted retries, and
`Fault.links` lists the causes one by one, down to that error.
-/

namespace Safeguard

/-- What every error can tell: its message, and the messages of its causes, nearest first. -/
class Cause (ε : Type) where
  message : ε → String
  chain : ε → List String

/-- An error of an operation that says nothing but a message. -/
structure OperationError where
  message : String
deriving DecidableEq

instance : Cause OperationError where
  message e := e.message
  chain _ := []

/-- Why a guarded call brought no value. -/
inductive Fault (ε : Type) where
  /-- The circuit breaker refused the call; the operation did not run. -/
  | circuitOpen (name : String)
  /-- The bulkhead had no permit left; the operation did not run. -/
  | bulkheadFull (name : String) (limit : UInt64)
  /-- Every permitted attempt failed, the last one with `last`. -/
  | retryExhausted (name : String) (attempts : UInt32) (last : Fault ε)
  /-- An attempt ran beyond its deadline. -/
  | timedOut (limit : Duration)
  /-- The operation failed. -/
  | operation (error : ε)
  /-- A policy was refused before anything ran. -/
  | invalidConfiguration (message : String)
deriving DecidableEq

/-- The kinds of fault, as they label measurements. -/
inductive FaultKind
  | circuitOpen
  | bulkheadFull
  | retryExhausted
  | timedOut
  | operation
  | invalidConfiguration
deriving DecidableEq

namespace FaultKind

/-- The label of a kind. -/
def label : FaultKind → String
  | circuitOpen => "circuit_open"
  | bulkheadFull => "bulkhead_full"
  | retryExhausted => "retry_exhausted"
  | timedOut => "timeout"
  | operation => "operation"
  | invalidConfiguration => "invalid_configuration"

/-- Every kind, once. -/
def all : List FaultKind :=
  [circuitOpen, bulkheadFull, retryExhausted, timedOut, operation, invalidConfiguration]

/-- The kind with a given label. -/
def ofLabel? (s : String) : Option FaultKind := all.find? (·.label == s)

end FaultKind

/-- A refused configuration, as messages put it. -/
def invalidConfigurationText (message : String) : String := "Invalid configuration: " ++ message

namespace Fault

variable {ε : Type}

/-- The kind of a fault. -/
def kind : Fault ε → FaultKind
  | circuitOpen _ => .circuitOpen
  | bulkheadFull _ _ => .bulkheadFull
  | retryExhausted _ _ _ => .retryExhausted
  | timedOut _ => .timedOut
  | operation _ => .operation
  | invalidConfiguration _ => .invalidConfiguration

/-- Whether a layer refused the call before the operation ran. -/
def isRejection : Fault ε → Bool
  | circuitOpen _ | bulkheadFull _ _ => true
  | _ => false

/-- The operation's own error, looked for below exhausted retries. -/
def operationError : Fault ε → Option ε
  | operation e => some e
  | retryExhausted _ _ last => last.operationError
  | _ => none

/-- The operation's own error, taken out of a fault that is given up for it. -/
def intoOperationError : Fault ε → Option ε
  | operation e => some e
  | retryExhausted _ _ last => last.intoOperationError
  | _ => none

/-- One level of fault out of two: an error of the outer operation is the inner layer's fault and
stands for itself, every other fault of the outer layer keeps its meaning. -/
def flatten : Fault (Fault ε) → Fault ε
  | circuitOpen name => circuitOpen name
  | bulkheadFull name limit => bulkheadFull name limit
  | retryExhausted name attempts last => retryExhausted name attempts last.flatten
  | timedOut limit => timedOut limit
  | operation inner => inner
  | invalidConfiguration message => invalidConfiguration message

/-- The message of a fault. -/
def text [Cause ε] : Fault ε → String
  | circuitOpen name => "Circuit breaker '" ++ name ++ "' is open, rejecting calls"
  | bulkheadFull name limit =>
    "Bulkhead '" ++ name ++ "' is full: " ++ Digits.text limit.toNat ++
      " concurrent calls in flight"
  | retryExhausted name attempts _ =>
    "Retry '" ++ name ++ "' exhausted after " ++ Digits.text attempts.toNat ++ " attempts"
  | timedOut limit => "Operation timed out after " ++ limit.text
  | operation e => "Operation failed: " ++ Cause.message e
  | invalidConfiguration message => invalidConfigurationText message

/-- One cause of a fault: the fault of the last attempt, or the operation's error. -/
inductive Link (ε : Type) where
  | fault (f : Fault ε)
  | error (e : ε)
deriving DecidableEq

/-- The nearest cause of a fault. -/
def source? : Fault ε → Option (Link ε)
  | retryExhausted _ _ last => some (.fault last)
  | operation e => some (.error e)
  | _ => none

/-- The nearest cause of a cause. An operation's error has none of its own. -/
def Link.source? : Link ε → Option (Link ε)
  | fault f => f.source?
  | error _ => none

/-- The causes of a fault, nearest first. Only an exhausted retry and a failed operation have one.
-/
def links : Fault ε → List (Link ε)
  | retryExhausted _ _ last => .fault last :: last.links
  | operation e => [.error e]
  | _ => []

/-- The messages of the causes of a fault, nearest first, through the causes of the operation's
error as well. -/
def causes [Cause ε] (f : Fault ε) : List String :=
  f.links.flatMap fun
    | .fault g => [g.text]
    | .error e => Cause.message e :: Cause.chain e

instance [Cause ε] : Cause (Fault ε) where
  message := text
  chain := causes

end Fault

end Safeguard
