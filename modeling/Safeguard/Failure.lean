import Safeguard.Fault

/-!
# Failures as a retry predicate sees them

A retry predicate is asked about failures of any error type. A `Failure` is what it can tell apart:
an operation's bare error, the fault of one layer or of two, or an error of another type. A
`Predicate` answers whether such a failure is worth another attempt.
-/

namespace Safeguard

/-- An error of a type that has nothing to do with the operation's. -/
structure ForeignError where
  type : String := ""
  message : String := ""
deriving DecidableEq

/-- A failed attempt, seen without knowing the attempt's error type; the errors of operations are of
type `ε`. -/
inductive Failure (ε : Type := OperationError) where
  | bare (e : ε)
  | layered (f : Fault ε)
  | nested (f : Fault (Fault ε))
  | foreign (e : ForeignError := {})
deriving DecidableEq

/-- Error types whose values a retry predicate can be asked about. -/
class Seen (ε : Type) extends Cause ε where
  failure : ε → Failure

instance : Seen OperationError where
  failure := .bare

instance : Seen (Fault OperationError) where
  failure := .layered

instance : Seen (Fault (Fault OperationError)) where
  failure := .nested

/-- Whether a failure is worth another attempt. -/
abbrev Predicate (ε : Type := OperationError) := Failure ε → Bool

variable {ε : Type}

namespace Failure

/-- A failed operation inside one layer, as its bare error; any other failure stays as it is. -/
def unwrapped : Failure ε → Failure ε
  | layered (.operation e) => bare e
  | f => f

end Failure

namespace Predicate

/-- The predicate for attempts that a layer wraps: it sees the operation's error as if the layer
were not there, and the layer's own faults as they are. -/
def unwrapping (p : Predicate ε) : Predicate ε := fun f => p f.unwrapped

/-- Asks `test` about the operation's error, whether it comes bare or below the faults of one layer;
a failure without one is worth another attempt. -/
def onOperationError (test : ε → Bool) : Predicate ε
  | .bare e => test e
  | .layered f => (f.operationError.map test).getD true
  | _ => true

/-- Asks `test` about a bare error only, and answers `otherwise` to everything else. -/
def onBare (test : ε → Bool) (otherwise : Bool) : Predicate ε
  | .bare e => test e
  | _ => otherwise

/-- Asks `test` about the fault of one layer only, and answers `otherwise` to everything else. -/
def onLayered (test : Fault ε → Bool) (otherwise : Bool) : Predicate ε
  | .layered f => test f
  | _ => otherwise

end Predicate

end Safeguard
