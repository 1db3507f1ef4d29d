import Safeguard.Floor

/-!
# Histories of a floor

Everything that can happen on a floor between two moments, apart from a call in the foreground, is a
`Step`; a list of steps is a history. Calls that are started one by one, fed and dropped in any
order, while time passes in between, make up every interleaving of calls at their waits.
-/

namespace Safeguard.Floor

variable {β ρ : Type}

/-- What can happen between two moments. -/
inductive Step (β ρ : Type) where
  /-- A call is made in the background. -/
  | start (id : String) (activity : Activity β ρ)
  /-- An outcome is fed to a call. -/
  | feed (id : String) (outcome : Outcome β)
  /-- A call is dropped. -/
  | drop (id : String)
  /-- Time passes. -/
  | sleep (d : Duration)
  /-- The clock of the breakers is moved. -/
  | advance (span : Duration)
  /-- A permit is taken outside of any call. -/
  | hold (holder : String) (bulkhead : Nat)
  /-- A permit that was taken so is given back. -/
  | giveBack (holder : String)

/-- Takes one step; says whether it could be taken. -/
def step (f : Floor β ρ) : Step β ρ → Bool × Floor β ρ
  | .start id activity => (true, f.start id activity)
  | .feed id outcome => ((f.feed? id outcome).isSome, (f.feed? id outcome).getD f)
  | .drop id => ((f.drop? id).isSome, (f.drop? id).getD f)
  | .sleep d => (true, f.sleep d)
  | .advance span =>
    match f.world.clock.advance? span with
    | some clock => (true, { f with world := { f.world with clock } })
    | none => (false, f)
  | .hold holder bulkhead => f.hold holder bulkhead
  | .giveBack holder => f.giveBack holder

/-- The floor after a history. -/
def run (f : Floor β ρ) (history : List (Step β ρ)) : Floor β ρ :=
  history.foldl (fun f s => (f.step s).2) f

end Safeguard.Floor
