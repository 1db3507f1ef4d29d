import Safeguard.Activity
import Safeguard.Breaker
import Safeguard.Bulkhead
import Safeguard.Registry
import Safeguard.Time.Clock

/-!
# The world that activities share

A `World` holds every breaker and bulkhead that was ever made, the registry that finds them by key,
the clocks, and a journal of what the layers let it know. `Scene.perform` is what each effect of an
activity does to the world and to the record of the call it belongs to.

Two clocks tell the time: `now` counts the milliseconds that activities wait for, and `clock` drives
the cool-down of breakers.
-/

namespace Safeguard

/-- What activities share. -/
structure World where
  /-- The milliseconds since the beginning. -/
  now : Nat
  /-- The clock of the breakers. -/
  clock : Clock
  /-- Whether signals are kept; log lines always are. -/
  listening : Bool
  /-- Every breaker made so far, by number. -/
  breakers : List Breaker
  /-- Every bulkhead made so far, by number. -/
  bulkheads : List Bulkhead
  registry : Registry
  /-- What the layers let the world know, with the time. -/
  journal : Array (Nat × Notice)

namespace World

/-- The world at the beginning. -/
def start (listening : Bool) : World := ⟨0, .start, listening, [], [], .empty, #[]⟩

variable (w : World)

/-- The notices in the journal. -/
def notices : List Notice := w.journal.toList.map (·.2)

/-- The world with an empty journal. -/
def forget : World := { w with journal := #[] }

/-- Whether a notice is kept. -/
def keeps : Notice → Bool
  | .signal _ => w.listening
  | .line _ => true

/-- The world after it was let know something. -/
def tell (notices : List Notice) : World :=
  -- Nobody needs to listen for a line to be logged.
  let kept := (notices.filter w.keeps).map fun notice => (w.now, notice)
  { w with journal := w.journal ++ kept }

/-- The world later. -/
def after (millis : Nat) : World := { w with now := w.now + millis }

/-! ## Breakers -/

/-- The world in which breaker `i` has become `after b`, for the breaker `b` it was, and has let the
world know `notices b`. -/
def stepBreaker (i : Nat) (after : Breaker → Breaker) (notices : Breaker → List Notice) : World :=
  match w.breakers[i]? with
  | none => w
  | some b => { w with breakers := w.breakers.set i (after b) }.tell (notices b)

/-- A call asks breaker `i` for admission. -/
def acquire (i : Nat) : Except Rejection Unit × World :=
  let now := w.clock.now
  -- The answer is that of the breaker as it was before.
  let answer :=
    match w.breakers[i]? with
    | some b => if b.admits now then .ok () else .error (.circuitOpen b.name)
    | none => .ok ()
  (answer, w.stepBreaker i (·.acquire now) (·.acquireNotices now))

/-- The outcome of a call is recorded with breaker `i`. -/
def settle (i : Nat) (success : Bool) : World :=
  let now := w.clock.now
  w.stepBreaker i (·.settle now success) (·.settleNotices now success)

/-- Breaker `i` is reset. -/
def resetBreaker (i : Nat) : World := w.stepBreaker i (·.reset) (·.resetNotices)

/-! ## Bulkheads -/

/-- The world in which bulkhead `i` has become `after b`, for the bulkhead `b` it was, and has let
the world know `notices b`. -/
def stepBulkhead (i : Nat) (after : Bulkhead → Bulkhead) (notices : Bulkhead → List Notice) :
    World :=
  match w.bulkheads[i]? with
  | none => w
  | some b => { w with bulkheads := w.bulkheads.set i (after b) }.tell (notices b)

/-- A call asks bulkhead `i` for a permit. -/
def enter (i : Nat) : Except Rejection Unit × World :=
  let answer :=
    match w.bulkheads[i]? with
    | some b => if b.admits then .ok () else .error (.bulkheadFull b.name b.policy.maxConcurrent)
    | none => .ok ()
  (answer, w.stepBulkhead i (·.acquire) (·.acquireNotices))

/-- A permit of bulkhead `i` is given back. -/
def leave (i : Nat) : World := w.stepBulkhead i (·.release) fun _ => []

/-! ## Instances by key -/

/-- The log line of a registration. -/
def registered (kind key : String) : Notice :=
  .log .debug ("Registered " ++ kind) [("key", .text key)]

/-- The world with one more breaker, and its number. -/
def addBreaker (b : Breaker) : Nat × World :=
  (w.breakers.length, { w with breakers := w.breakers ++ [b] })

/-- The world with one more bulkhead, and its number. -/
def addBulkhead (b : Bulkhead) : Nat × World :=
  (w.bulkheads.length, { w with bulkheads := w.bulkheads ++ [b] })

/-- The breaker under a key. If there is none, one called `name` is made and registered, unless its
policy is refused. -/
def breakerAt (key name : String) (policy : BreakerPolicy) : Except PolicyError Nat × World :=
  match w.registry.breakers.find? key with
  | some i => (.ok i, w)
  | none =>
    match Breaker.make name policy with
    | .error e => (.error e, w)
    | .ok b =>
      let (i, w) := w.addBreaker b
      let registry := { w.registry with breakers := w.registry.breakers.insert key i }
      (.ok i, { w with registry }.tell [registered "circuit breaker" key])

/-- The bulkhead under a key. If there is none, one called `name` is made and registered, unless its
policy is refused. -/
def bulkheadAt (key name : String) (policy : BulkheadPolicy) : Except PolicyError Nat × World :=
  match w.registry.bulkheads.find? key with
  | some i => (.ok i, w)
  | none =>
    match Bulkhead.make name policy with
    | .error e => (.error e, w)
    | .ok b =>
      let (i, w) := w.addBulkhead b
      let registry := { w.registry with bulkheads := w.registry.bulkheads.insert key i }
      (.ok i, { w with registry }.tell [registered "bulkhead" key])

/-- The log line of an instance that keeps another policy than the one asked for. -/
def keptPolicy (kind key : String) : Notice :=
  .log .debug (kind ++ " already exists, keeping its original policy") [("key", .text key)]

/-- The breaker under a key for a call that asks for a policy. The policy is refused even if a
breaker is there already; a breaker that is there keeps its own. -/
def findBreaker (key : String) (policy : BreakerPolicy) : Except PolicyError Nat × World :=
  match policy.validate with
  | .error e => (.error e, w)
  | .ok () =>
    match w.breakerAt key key policy with
    | (.error e, w) => (.error e, w)
    | (.ok i, w) =>
      -- A breaker that was made just now has the policy that was asked for.
      if w.breakers[i]?.any (·.policy ≠ policy) then
        (.ok i, w.tell [keptPolicy "Circuit breaker" key])
      else (.ok i, w)

/-- The bulkhead under a key for a call that asks for a policy. The policy is refused even if a
bulkhead is there already; a bulkhead that is there keeps its own. -/
def findBulkhead (key : String) (policy : BulkheadPolicy) : Except PolicyError Nat × World :=
  match policy.validate with
  | .error e => (.error e, w)
  | .ok () =>
    match w.bulkheadAt key key policy with
    | (.error e, w) => (.error e, w)
    | (.ok i, w) =>
      if w.bulkheads[i]?.any (·.policy ≠ policy) then
        (.ok i, w.tell [keptPolicy "Bulkhead" key])
      else (.ok i, w)

/-- The world with nothing registered; whoever knows an instance by number keeps it. -/
def clearRegistry : World := { w with registry := .empty }

end World

/-- The attempts of one call. -/
structure Record where
  /-- When each attempt began. -/
  starts : Array Nat
  /-- How many of them came to an outcome. -/
  finished : Nat

namespace Record

/-- No attempt yet. -/
def empty : Record := ⟨#[], 0⟩

end Record

/-- What became of a call. -/
structure Report (ρ : Type) where
  /-- How the call ended, unless it was dropped. -/
  ending : Option (Ending ρ)
  /-- When each attempt began, since the call was made. -/
  starts : List Nat
  /-- How many attempts came to an outcome. -/
  finished : Nat
  /-- The milliseconds that the call took, if it returned. -/
  elapsed : Option Nat
deriving DecidableEq

/-- The report on a call with a given ending, made at `began` and ended at `now`. -/
def Record.report {ρ : Type} (r : Record) (began now : Nat) (ending : Option (Ending ρ)) :
    Report ρ :=
  { ending
    starts := r.starts.toList.map (· - began)
    finished := r.finished
    elapsed := (ending.bind (·.returned?)).map fun _ => now - began }

/-- The world as one call meets it. -/
structure Scene where
  world : World
  record : Record

namespace Scene

/-- What an effect answers, and the scene after it. -/
def perform (s : Scene) : (e : Effect) → e.Answer × Scene
  | .clock => (s.world.now, s)
  | .invoke =>
    (s.record.starts.size,
      { s with record := { s.record with starts := s.record.starts.push s.world.now } })
  | .conclude => ((), { s with record := { s.record with finished := s.record.finished + 1 } })
  | .tell notice => ((), { s with world := s.world.tell [notice] })
  | .findBreaker key policy =>
    let (answer, world) := s.world.findBreaker key policy
    (answer, { s with world })
  | .findBulkhead key policy =>
    let (answer, world) := s.world.findBulkhead key policy
    (answer, { s with world })
  | .acquire i =>
    let (answer, world) := s.world.acquire i
    (answer, { s with world })
  | .settle i success => ((), { s with world := s.world.settle i success })
  | .enter i =>
    let (answer, world) := s.world.enter i
    (answer, { s with world })
  | .leave i => ((), { s with world := s.world.leave i })

end Scene

/-- An activity that nothing else shares the world with, run to its end: how it ended, if it did not
wait for an outcome from outside. -/
def Activity.run {β α : Type} : Activity β α → Scene → Option (Ending α) × Scene
  | .ended ending, s => (some ending, s)
  | .act e next, s =>
    let (answer, s) := s.perform e
    (next answer).run s
  | .wait w next, s =>
    match h : w.limit with
    | some ms => (next (.elapsed ms h)).run { s with world := s.world.after ms }
    | none => (none, s)

/-- A call that nothing else shares the world with: what became of it, and the world after it. -/
def World.call {β ρ : Type} (w : World) (activity : Activity β ρ) : Report ρ × World :=
  let (ending, s) := activity.run ⟨w, .empty⟩
  (s.record.report w.now s.world.now ending, s.world)

end Safeguard
