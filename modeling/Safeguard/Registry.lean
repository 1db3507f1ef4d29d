import Safeguard.Registry.Directory
import Safeguard.Text.Outline
import Safeguard.Number.Digits

/-!
# Registry

The registry knows which breaker and which bulkhead stands under which key. The instances go by
number; two keys never share one, and a key keeps its instance until the registry is cleared.
-/

namespace Safeguard

/-- The breakers and the bulkheads by key. -/
structure Registry where
  breakers : Directory
  bulkheads : Directory

namespace Registry

/-- The registry without any instance. -/
def empty : Registry := ⟨.empty, .empty⟩

/-- The outline of a registry. -/
def outline (r : Registry) : String :=
  Text.outline "ResilienceRegistry"
    [("circuit_breakers", Digits.text r.breakers.size), ("bulkheads", Digits.text r.bulkheads.size)]
    true

end Registry

/-- The key of the bulkhead for calls under a name. -/
def bulkheadKey (name : String) : String := name ++ "Bulkhead"

/-- The key of the circuit breaker for calls under a name. -/
def breakerKey (name : String) : String := name ++ "CircuitBreaker"

/-- The name of the retries of calls under a name. -/
def retryKey (name : String) : String := name ++ "Retry"

/-- The name of the deadlines of calls under a name. -/
def timeoutKey (name : String) : String := name ++ "Timeout"

end Safeguard
