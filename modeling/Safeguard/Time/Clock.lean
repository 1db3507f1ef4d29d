import Safeguard.Time.Duration

/-!
# Clocks

A clock shows the time since it was started. It is moved forward by hand, and refuses to be moved
beyond the range of an instant.
-/

namespace Safeguard

/-- A clock that is moved by hand. -/
structure Clock where
  /-- The time since the clock was started. -/
  now : Duration
deriving DecidableEq

namespace Clock

/-- A clock that was just started. -/
def start : Clock := ⟨.zero⟩

/-- The nanoseconds by which a clock is never moved beyond its start. Instants count seconds in a
signed word of 64 bits, and the clock is started after the first second. -/
def range : Nat := (2 ^ 63 - 1) * 10 ^ 9

/-- The refusal of a move beyond the range of an instant. -/
def overflow : String := "overflow when adding duration to instant"

/-- The clock after a span of time, if that is in range. -/
def advance? (c : Clock) (span : Duration) : Option Clock :=
  if h : c.now.nanos + span.nanos < range then
    some ⟨⟨c.now.nanos + span.nanos, Nat.lt_trans h (by decide)⟩⟩
  else none

end Clock

end Safeguard
