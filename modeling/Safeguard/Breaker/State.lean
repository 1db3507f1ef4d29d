/-!
# States of a circuit breaker
-/

namespace Safeguard

/-- Whether calls flow through a circuit breaker. -/
inductive BreakerState
  /-- Every call is admitted. -/
  | closed
  /-- Every call is refused until the breaker has cooled down. -/
  | opened
  /-- Calls are admitted as probes. -/
  | halfOpen
deriving DecidableEq

namespace BreakerState

/-- The name of a state in messages. -/
def text : BreakerState → String
  | closed => "CLOSED"
  | opened => "OPEN"
  | halfOpen => "HALF_OPEN"

/-- The label of a state in measurements. -/
def label : BreakerState → String
  | closed => "closed"
  | opened => "open"
  | halfOpen => "half_open"

/-- The level a gauge shows for a state; the more of the calls a state refuses, the higher. -/
def gauge : BreakerState → Nat
  | closed => 0
  | halfOpen => 1
  | opened => 2

/-- The name of a state in outlines. -/
def outline : BreakerState → String
  | closed => "Closed"
  | opened => "Open"
  | halfOpen => "HalfOpen"

/-- The state with a given name in messages. -/
def ofText? (s : String) : Option BreakerState := [closed, opened, halfOpen].find? (·.text == s)

end BreakerState

end Safeguard
