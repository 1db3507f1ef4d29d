/-!
# An occupancy probe

A stand-in for a guarded section that counts who is inside and remembers the peak. Guests are told
apart by a name, and a guest who enters again is counted once more before the earlier visit ends.
-/

namespace Safeguard.Fixture

/-- Who is inside, and how many there were at most. -/
structure Occupancy where
  inside : Nat
  peak : Nat
  guests : List String
deriving DecidableEq

namespace Occupancy

/-- Nobody has come yet. -/
def empty : Occupancy := ⟨0, 0, []⟩

/-- Somebody enters; an earlier visit of the same guest ends right after. -/
def enter (o : Occupancy) (guest : String) : Occupancy :=
  let now := o.inside + 1
  if guest ∈ o.guests then { o with peak := max o.peak now }
  else ⟨now, max o.peak now, guest :: o.guests⟩

/-- Somebody leaves; whoever is not inside cannot leave. -/
def exit (o : Occupancy) (guest : String) : Occupancy :=
  if guest ∈ o.guests then { o with inside := o.inside - 1, guests := o.guests.erase guest } else o

end Occupancy

end Safeguard.Fixture
