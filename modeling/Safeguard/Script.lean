import Safeguard.Activity

/-!
# Scripts

A `Script` plays an operation: it says what each attempt comes to, and when. The attempts follow its
entries one by one, and the last entry repeats.
-/

namespace Safeguard

/-- One entry of a script. -/
inductive Attempt (β : Type) where
  /-- Comes to an outcome after a delay. -/
  | timed (delay : Duration) (outcome : Outcome β)
  /-- Comes to whatever outcome is fed from outside. -/
  | gated

/-- The entries of a script, at least one. -/
structure Script (β : Type) where
  first : Attempt β
  others : List (Attempt β)

namespace Script

variable {β : Type}

/-- The script of one entry. -/
def repeating (a : Attempt β) : Script β := ⟨a, []⟩

/-- The entry that attempt `n` follows, counted from zero. -/
def attempt (s : Script β) (n : Nat) : Attempt β :=
  let entries := s.first :: s.others
  entries.get ⟨min n s.others.length, Nat.lt_succ_of_le (Nat.min_le_right ..)⟩

/-- An attempt comes to its outcome. -/
def conclude (outcome : Outcome β) : Activity β (Except OperationError β) :=
  .act .conclude fun _ => .ended outcome.ending

/-- One attempt. -/
def play : Attempt β → Activity β (Except OperationError β)
  | .timed delay outcome => (Activity.sleep true delay.sleepMillis).bind fun _ => conclude outcome
  | .gated => .wait .atGate fun
    | .elapsed _ h => nomatch h
    | .opened _ _ outcome => conclude outcome

/-- The operation that a script plays. -/
def operation (s : Script β) : Activity β (Except OperationError β) :=
  .act .invoke fun n => play (s.attempt n)

end Script

end Safeguard
