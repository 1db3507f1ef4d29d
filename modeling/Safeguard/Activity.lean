import Safeguard.Log
import Safeguard.Outcome
import Safeguard.Policy

/-!
# Activities

An `Activity β α` is a piece of work that ends with an `α`: a tree of effects on the world, each
followed by what happens after its answer, and of waits, each followed by what happens after it. The
tree says what the work does and decides nothing about when it runs; several activities can share a
world, one step of one of them at a time. The outcomes fed to an activity from outside carry values
of type `β`.

The layers are functions from activities to activities, built from the combinators of this file:
`bind` goes on after an activity, `holding` gives a permit back however it ends, and `deadline`
drops what is left of it when its time is up.
-/

namespace Safeguard

/-- Why a layer refuses a call. -/
inductive Rejection where
  | circuitOpen (name : String)
  | bulkheadFull (name : String) (limit : UInt64)
deriving DecidableEq

/-- The fault of a refused call. -/
def Rejection.fault {ε : Type} : Rejection → Fault ε
  | circuitOpen name => .circuitOpen name
  | bulkheadFull name limit => .bulkheadFull name limit

/-- What an activity can do to the world, or ask of it. Breakers and bulkheads go by number. -/
inductive Effect where
  /-- Reads the time. -/
  | clock
  /-- Begins an attempt of the operation. -/
  | invoke
  /-- Ends an attempt of the operation. -/
  | conclude
  /-- Lets the world know something. -/
  | tell (notice : Notice)
  /-- Looks a breaker up by its key, or registers one. -/
  | findBreaker (key : String) (policy : BreakerPolicy)
  /-- Looks a bulkhead up by its key, or registers one. -/
  | findBulkhead (key : String) (policy : BulkheadPolicy)
  /-- Asks a breaker for admission. -/
  | acquire (breaker : Nat)
  /-- Records the outcome of an admitted call. -/
  | settle (breaker : Nat) (success : Bool)
  /-- Takes a permit of a bulkhead. -/
  | enter (bulkhead : Nat)
  /-- Gives a permit of a bulkhead back. -/
  | leave (bulkhead : Nat)

namespace Effect

/-- What an effect answers: the time, the number of earlier attempts, the number of a breaker or
bulkhead, or whether a layer refuses. -/
def Answer : Effect → Type
  | clock | invoke => Nat
  | conclude | tell _ | settle _ _ | leave _ => Unit
  | findBreaker _ _ | findBulkhead _ _ => Except PolicyError Nat
  | acquire _ | enter _ => Except Rejection Unit

end Effect

/-- A wait of an activity: for a time, for an outcome from outside, or for the first of the two. -/
structure Wait where
  /-- The milliseconds after which the wait ends. -/
  limit : Option Nat
  /-- Whether an outcome from outside ends the wait. -/
  gated : Bool
  /-- Whether an attempt of the operation is under way meanwhile. -/
  running : Bool
  /-- The bulkheads to which a permit is given back if the activity is dropped here. -/
  leaves : List Nat
  /-- No wait ends at once. -/
  limit_pos : ∀ ms, limit = some ms → 0 < ms

/-- How a wait ended. -/
inductive Wake (β : Type) (limit : Option Nat) (gated : Bool) where
  /-- The whole time has passed. -/
  | elapsed (ms : Nat) (h : limit = some ms)
  /-- An outcome came from outside, `after` milliseconds. -/
  | opened (h : gated = true) (after : Nat) (outcome : Outcome β)

/-- The milliseconds that a wait took. -/
def Wake.time {β : Type} {limit : Option Nat} {gated : Bool} : Wake β limit gated → Nat
  | elapsed ms _ => ms
  | opened _ after _ => after

/-- A piece of work. -/
inductive Activity (β α : Type) where
  | ended (ending : Ending α)
  | act (e : Effect) (next : e.Answer → Activity β α)
  | wait (w : Wait) (next : Wake β w.limit w.gated → Activity β α)

namespace Wait

/-- A wait for a time, within an attempt or between two. -/
def forMillis (running : Bool) (ms : Nat) (h : 0 < ms) : Wait :=
  ⟨some ms, false, running, [], by simp [h]⟩

/-- The wait of an attempt for an outcome from outside. -/
def atGate : Wait := ⟨none, true, true, [], by simp⟩

/-- Whether the wait ends by itself within `budget` milliseconds. -/
def endsWithin (w : Wait) (budget : Nat) : Bool := w.limit.any (· ≤ budget)

/-- The wait, cut off after `budget` milliseconds. -/
def cut (w : Wait) (budget : Nat) (h : budget ≠ 0) : Wait :=
  { w with
    limit := some budget
    limit_pos := fun ms hms => by cases hms; exact Nat.pos_of_ne_zero h }

/-- The wait of an activity that holds one more permit. -/
def leaving (w : Wait) (bulkhead : Nat) : Wait := { w with leaves := bulkhead :: w.leaves }

end Wait

namespace Activity

variable {β α γ ε : Type}

/-- The activity that does nothing and returns `a`. -/
def pure (a : α) : Activity β α := ended (.returned a)

/-- Goes on with what an activity returned; a panic stops the whole. -/
def bind (k : α → Activity β γ) : Activity β α → Activity β γ
  | ended (.returned a) => k a
  | ended (.panicked message) => ended (.panicked message)
  | act e next => act e fun answer => (next answer).bind k
  | wait w next => wait w fun wake => (next wake).bind k

/-- Changes what an activity returns. -/
def map (f : α → γ) (x : Activity β α) : Activity β γ := x.bind fun a => pure (f a)

/-- Goes on with the value of an activity that may fail; a failure stops the whole. -/
def bindOk (x : Activity β (Except ε α)) (k : α → Activity β (Except ε γ)) :
    Activity β (Except ε γ) :=
  x.bind fun
    | .ok a => k a
    | .error e => pure (.error e)

/-- One effect and its answer. -/
def perform (e : Effect) : Activity β e.Answer := act e pure

/-- Lets the world know something and goes on. -/
def telling (notices : List Notice) (rest : Activity β α) : Activity β α :=
  notices.foldr (fun notice x => act (.tell notice) fun _ => x) rest

/-- Waits for `ms` milliseconds, within an attempt or between two; none take no time. -/
def sleep (running : Bool) (ms : Nat) : Activity β Unit :=
  if h : 0 < ms then wait (.forMillis running ms h) fun _ => pure () else pure ()

/-- Gives permits back and goes on. -/
def leaving (bulkheads : List Nat) (rest : Activity β α) : Activity β α :=
  bulkheads.foldr (fun bulkhead x => act (.leave bulkhead) fun _ => x) rest

/-- The activity of a call that holds a permit: it is given back when the activity ends, whether by
returning, by a panic or because it is dropped. -/
def holding (bulkhead : Nat) : Activity β α → Activity β α
  | ended ending => act (.leave bulkhead) fun _ => ended ending
  | act e next => act e fun answer => (next answer).holding bulkhead
  -- Dropped at this wait, the call gives the permit back there.
  | wait w next => wait (w.leaving bulkhead) fun wake => (next wake).holding bulkhead

/-- The activity with `budget` milliseconds to end in: what it returned, or nothing if it was
dropped when they were over. Work that is due when the time is up still comes first, up to its next
wait. -/
def deadline (budget : Nat) : Activity β α → Activity β (Option α)
  | ended ending => ended (ending.map some)
  | act e next => act e fun answer => (next answer).deadline budget
  | wait w next =>
    -- The time was up before this wait, and what was due has been done.
    if h : budget = 0 then leaving w.leaves (pure none)
    else if w.endsWithin budget then
      wait w fun wake => (next wake).deadline (budget - wake.time)
    else
      wait (w.cut budget h) fun
        -- Dropped in the middle of the wait, with the permits it holds.
        | .elapsed _ _ => leaving w.leaves (pure none)
        | .opened gated after outcome =>
          (next (.opened gated after outcome)).deadline (budget - after)

end Activity

end Safeguard
