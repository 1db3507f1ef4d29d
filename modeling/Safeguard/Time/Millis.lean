/-!
# Measured milliseconds
-/

namespace Safeguard

/-- A measured number of milliseconds as a 64-bit word; more than fit are written as the largest
word. -/
def millisWord (millis : Nat) : UInt64 := UInt64.ofNat (min millis (2 ^ 64 - 1))

end Safeguard
