import Safeguard.Fault

/-!
# A flaky operation

A stand-in for a remote call that fails a fixed number of times and then succeeds.
-/

namespace Safeguard.Fixture

/-- An operation that fails `failures` times; everyone who shares it shares its counter. -/
structure Flaky where
  failures : UInt32
  calls : UInt32
deriving DecidableEq

namespace Flaky

/-- An operation that fails `n` times first. -/
def failing (n : UInt32) : Flaky := ⟨n, 0⟩

/-- An operation that fails as often as can be counted. -/
def alwaysFailing : Flaky := failing (UInt32.ofNat (2 ^ 32 - 1))

/-- An operation that never fails. -/
def alwaysSucceeding : Flaky := failing 0

/-- One call: the number of the call, or a failure that tells it. -/
def call (f : Flaky) : Except OperationError UInt32 × Flaky :=
  let n := f.calls + 1
  let answer :=
    if n ≤ f.failures then .error ⟨"failure #" ++ Digits.text n.toNat⟩ else .ok n
  (answer, { f with calls := n })

/-- Several calls, one after another. -/
def callTimes (f : Flaky) : Nat → List (Except OperationError UInt32) × Flaky
  | 0 => ([], f)
  | n + 1 =>
    let (answer, f) := f.call
    let (answers, f) := f.callTimes n
    (answer :: answers, f)

end Flaky

end Safeguard.Fixture
