import Safeguard.Log
import Safeguard.Policy
import Safeguard.Text.Quoted

/-!
# Bulkhead

A bulkhead holds a number of permits. A call takes one without waiting and gives it back when it
ends; with no permit left the call is refused. `BulkheadStats` is a snapshot, with the ratios that
follow from it.
-/

namespace Safeguard

/-- A snapshot of a bulkhead. -/
structure BulkheadStats where
  maxConcurrent : UInt64
  inFlight : UInt64
  available : UInt64
  totalAdmitted : UInt64
  totalRefused : UInt64
deriving DecidableEq

namespace BulkheadStats

variable (s : BulkheadStats)

/-- The share of the permits that is in use. -/
def utilization : Binary64 := .ofNat s.inFlight.toNat / .ofNat s.maxConcurrent.toNat

/-- The share of the calls that was refused, zero without any call; no answer if the number of calls
does not fit into a word. -/
def rejectionRate? : Option Binary64 :=
  let total := s.totalAdmitted.toNat + s.totalRefused.toNat
  if 2 ^ 64 ≤ total then none
  else if total = 0 then some (.zero false)
  else some (.ofNat s.totalRefused.toNat / .ofNat total)

/-- The refusal of a sum that does not fit into a word. -/
def overflow : String := "attempt to add with overflow"

/-- Whether every permit is in use. -/
def isAtCapacity : Bool := s.available = 0

end BulkheadStats

/-- A bulkhead and what it has counted. -/
structure Bulkhead where
  name : String
  policy : BulkheadPolicy
  /-- The permits that are left. -/
  available : UInt64
  /-- The calls admitted, modulo `2^64`. -/
  totalAdmitted : UInt64
  /-- The calls refused, modulo `2^64`. -/
  totalRefused : UInt64
deriving DecidableEq

namespace Bulkhead

/-- A bulkhead with every permit left. -/
def fresh (name : String) (policy : BulkheadPolicy) : Bulkhead :=
  ⟨name, policy, policy.maxConcurrent, 0, 0⟩

/-- A bulkhead with a policy that is in order. -/
def make (name : String) (policy : BulkheadPolicy) : Except PolicyError Bulkhead := do
  policy.validate
  return fresh name policy

variable (b : Bulkhead)

/-- Whether a permit is left. -/
def admits : Bool := b.available ≠ 0

/-- The bulkhead after a call has asked for a permit. -/
def acquire : Bulkhead :=
  if b.admits then { b with available := b.available - 1, totalAdmitted := b.totalAdmitted + 1 }
  else { b with totalRefused := b.totalRefused + 1 }

/-- The bulkhead after a permit was given back. -/
def release : Bulkhead := { b with available := b.available + 1 }

/-- The permits in use. -/
def inFlight : UInt64 := b.policy.maxConcurrent - b.available

/-- What a call that asks for a permit lets the world know: nothing, or that it was refused. -/
def acquireNotices : List Notice :=
  if b.admits then []
  else
    [.log .debug "Bulkhead full, rejecting call"
        [("bulkhead", .text b.name), ("max", .number b.policy.maxConcurrent.toNat)],
      .signal (.bulkheadRejection b.name)]

/-- The snapshot of a bulkhead. -/
def stats : BulkheadStats :=
  ⟨b.policy.maxConcurrent, b.inFlight, b.available, b.totalAdmitted, b.totalRefused⟩

/-- The outline of a bulkhead. -/
def outline : String :=
  Text.outline "Bulkhead"
    [("name", Text.quoted b.name),
      ("max_concurrent_calls", Digits.text b.policy.maxConcurrent.toNat),
      ("available_permits", Digits.text b.available.toNat)] false

end Bulkhead

end Safeguard
