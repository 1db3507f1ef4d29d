import Safeguard.Breaker.Session
import Safeguard.Proofs.BreakerSession
import Safeguard.Proofs.FloorInvariant
import Safeguard.Proofs.OrchestratorEntry

/-!
# A standalone breaker beside a floor

Calls under one name share a breaker. This file puts a breaker of its own beside a floor with such
calls, and says what it is asked and told: it is asked for admission when a call begins, and is told
how the call has ended. The standalone breaker is a `Breaker.Session`; what happens to it is read
off the floor turn by turn (`Turn.operations`).

`Follows` is the invariant: the breaker under the key is the standalone breaker, and every call that
waits owes it a record. It is kept by everything that goes on without a new call.

## Key results

- `Since.advance`: a call in the background goes on, and the standalone breaker follows
- `kept_since`: so it does whenever timers go off and calls are fed or dropped
- `Follows.step`: a step of a history
-/

namespace Safeguard

namespace Simulation

open Activity (Owes)
open Breaker (Operation Session)
open Orchestrator (Unrefused letThrough)

variable {β : Type}

/-- A floor with calls that return what a call under a name does. -/
abbrev CallFloor (β : Type) := Floor β (Except (Fault OperationError) β)

/-- What becomes of a call: it ends, or it is dropped. -/
abbrev Fate (β : Type) := Option (Ending (Except (Fault OperationError) β))

/-! ## Histories of calls under one name -/

/-- A call that asks for a breaker, among other layers, with every policy in order. -/
structure Request (β : Type) where
  options : Options
  policy : BreakerPolicy
  breaker_eq : options.breaker = some policy
  valid : options.Valid
  script : Script β

/-- The call that is made of a request. -/
def Request.activity (c : Request β) (name : String) :
    Activity β (Except (Fault OperationError) β) :=
  Orchestrator.call name c.options c.script.operation

/-- Whether a step makes a call. -/
def isStart {ρ : Type} : Floor.Step β ρ → Bool
  | .start _ _ => true
  | _ => false

/-- What happens next on a floor whose calls are all under one name. -/
inductive Turn (β : Type) where
  /-- A call is made in the background. -/
  | start (id : String) (c : Request β)
  /-- A call is made in the foreground. -/
  | call (c : Request β)
  /-- Anything else. -/
  | step (s : Floor.Step β (Except (Fault OperationError) β)) (h : isStart s = false)

/-- The fates that calls met between two floors, in order. -/
def met (f g : CallFloor β) : List (Fate β) :=
  (g.completed.drop f.completed.length).map (·.2.ending)

/-- What comes of a turn. -/
structure Round (β : Type) where
  /-- The call that is made. -/
  made : Option (Request β)
  /-- The fates of earlier calls, until the call that is made has ended. -/
  during : List (Fate β)
  /-- The fate of the call that is made, if it is met in this turn. -/
  own : List (Fate β)
  /-- The fates of earlier calls after that. -/
  later : List (Fate β)
  floor : CallFloor β

/-- Takes a turn. -/
def Turn.round (name : String) (f : CallFloor β) : Turn β → Round β
  | .start id c =>
    let g := f.start id (c.activity name)
    ⟨some c, [], met f g, [], g⟩
  | .call c =>
    let (report, h) := f.call (c.activity name)
    let (_, _, g) := Floor.foreground (c.activity name) .empty f
    ⟨some c, met f g, [report.ending], met g h, h⟩
  | .step s _ =>
    let g := (f.step s).2
    ⟨none, met f g, [], [], g⟩

/-! ## The standalone breaker -/

/-- A breaker of its own, under the clock of the calls. -/
def standalone (name : String) (policy : BreakerPolicy) (clock : Clock) : Session :=
  { Session.start (.fresh (breakerKey name) policy) with clock }

/-- What a breaker is told of a call that it has admitted: a success if a value was returned, a
failure if a fault was, and nothing of a panic or of a call that was dropped. -/
def told : Fate β → List (Operation β)
  | some (.returned (.ok _)) => [.recordSuccess]
  | some (.returned (.error _)) => [.recordFailure]
  | some (.panicked _) => []
  | none => []

/-- What the standalone breaker is asked and told in a round that begins in the world `w`. A call
that the bulkhead lets through asks for admission. What becomes of it is told if it was admitted;
calls that have waited were. -/
def Round.operations (name : String) (w : World) (s : Session) (r : Round β) :
    List (Operation β) :=
  let asks := r.made.any fun c => letThrough name c.options w
  let own := if asks && s.breaker.admits s.clock.now then r.own.flatMap told else []
  (if asks then [.tryAcquire] else []) ++ (r.during.flatMap told ++ own ++ r.later.flatMap told)

/-- What the standalone breaker is asked and told in a turn; its clock is moved with the other. -/
def Turn.operations (name : String) (f : CallFloor β) (s : Session) : Turn β → List (Operation β)
  | .step (.advance span) _ => [.advance span]
  | t => (t.round name f).operations name f.world s

/-- A floor, and the standalone breaker once there has been a call. -/
structure Stage (β : Type) where
  floor : CallFloor β
  session : Option Session

/-- The standalone breaker of a turn; the first call makes it, with its policy. -/
def Turn.session (name : String) (p : Stage β) (t : Turn β) : Option Session :=
  p.session.or ((t.round name p.floor).made.map fun c =>
    standalone name c.policy p.floor.world.clock)

/-- The stage after a turn. -/
def follow (name : String) (p : Stage β) (t : Turn β) : Stage β where
  floor := (t.round name p.floor).floor
  session := (t.session name p).map fun s => (s.run (t.operations name p.floor s)).2

/-- The stage after a history that begins in a given world. -/
def run (name : String) (w : World) (history : List (Turn β)) : Stage β :=
  history.foldl (follow name) ⟨.ofWorld w, none⟩

/-- The fate of a call that a layer has refused. -/
def refusal (r : Rejection) : Fate β := some (.returned (.error r.fault))

/-- How the calls of a round are answered that begins in the world `w`: a call that its bulkhead
lets through is refused by its breaker if and only if the standalone breaker `s` refuses it, and a
call that was admitted or has waited is not refused at all. -/
structure Answered (name : String) (w : World) (s : Session) (r : Round β) : Prop where
  waited : ∀ fate ∈ r.during ++ r.later, ∀ n, fate ≠ refusal n
  turnedAway : ∀ c ∈ r.made, letThrough name c.options w = false →
    ∃ n limit, r.own = [refusal (.bulkheadFull n limit)]
  refused : ∀ c ∈ r.made, letThrough name c.options w = true →
    s.breaker.admits s.clock.now = false → r.own = [refusal (.circuitOpen (breakerKey name))]
  admitted : ∀ c ∈ r.made, letThrough name c.options w = true →
    s.breaker.admits s.clock.now = true → ∀ fate ∈ r.own, ∀ n, fate ≠ refusal n

/-! ## The invariant -/

variable {key : String} {i : Nat} {s : Session} {f g : CallFloor β}

/-- Every call that waits owes breaker `i` a record. -/
def AllOwe (i : Nat) (jobs : List (Job β (Except (Fault OperationError) β))) : Prop :=
  ∀ j ∈ jobs, ∀ wake, (j.next wake).Owes i Unrefused

/-- The standalone breaker is the one under the key, and every call that waits owes it a record. -/
structure Follows (key : String) (i : Nat) (s : Session) (f : CallFloor β) : Prop where
  tracks : f.world.Tracks key i s.breaker
  clock : s.clock = f.world.clock
  name : s.breaker.name = key
  owing : AllOwe i f.jobs

/-- The floor `f` came of the floor `f₀`, with no refusal, and the standalone breaker has followed
from `s`. -/
structure Since (key : String) (i : Nat) (f₀ : CallFloor β) (s : Session) (f : CallFloor β) :
    Prop where
  completed : f₀.completed <+: f.completed
  unrefused : ∀ fate ∈ met f₀ f, ∀ n, fate ≠ refusal n
  follows : Follows key i (s.run ((met f₀ f).flatMap told)).2 f

theorem met_self (f : CallFloor β) : met f f = [] := by
  simp [met]

/-- One more call meets its fate, after the others. -/
private theorem met_complete {f₀ f : CallFloor β} (h : f₀.completed <+: f.completed) (id : String)
    (report : Report (Except (Fault OperationError) β)) :
    met f₀ (f.complete id report) = met f₀ f ++ [report.ending] := by
  obtain ⟨more, hmore⟩ := h
  simp [met, Floor.complete, ← hmore]

/-- The invariant begins to be followed where it holds. -/
theorem Follows.since (h : Follows key i s f) : Since key i f s f where
  completed := List.prefix_rfl
  unrefused := by simp [met_self]
  follows := by simpa [met_self] using h

/-- The invariant goes on while the breakers stay as they are. -/
theorem Follows.of_sameBreakers (h : Follows key i s f) (hsame : f.world.SameBreakers g.world)
    (howing : AllOwe i g.jobs) : Follows key i s g where
  tracks := h.tracks.of_sameBreakers hsame
  clock := h.clock.trans hsame.clock.symm
  name := h.name
  owing := howing

/-- A record is the same on both sides. -/
theorem Follows.settled {result : Except (Fault OperationError) β} (h : Follows key i s f)
    (hsame : (f.world.settle i result.isOk).SameBreakers g.world)
    (howing : AllOwe i g.jobs) :
    Follows key i (s.run (told (some (.returned result)))).2 g := by
  obtain ⟨ht, hclock⟩ := h.tracks.settle result.isOk
  -- What the standalone breaker is told is the record that the call has made.
  have hsettled : (s.run (told (some (.returned result)))).2 = s.settle result.isOk := by
    cases result <;> rfl
  rw [hsettled]
  refine ⟨?_, (h.clock.trans hclock.symm).trans hsame.clock.symm, ?_, howing⟩
  · show g.world.Tracks key i (s.breaker.settle s.clock.now result.isOk)
    rw [h.clock]
    exact ht.of_sameBreakers hsame
  · show (s.breaker.settle _ _).name = key
    rw [Breaker.name_settle]
    exact h.name

/-- A move in which no call ends. -/
theorem Since.of_completed_eq {f₀ : CallFloor β} (h : Since key i f₀ s f)
    (hcompleted : g.completed = f.completed)
    (hfollows : ∀ s', Follows key i s' f → Follows key i s' g) : Since key i f₀ s g := by
  have hmet : met f₀ g = met f₀ f := by
    simp only [met, hcompleted]
  exact ⟨hcompleted ▸ h.completed, hmet ▸ h.unrefused, hmet ▸ hfollows _ h.follows⟩

/-- A move in which a call meets its fate. -/
theorem Since.complete {f₀ : CallFloor β} {id : String}
    {report : Report (Except (Fault OperationError) β)} (h : Since key i f₀ s f)
    (hcompleted : g.completed = f.completed ++ [(id, report)])
    (hunrefused : ∀ n, report.ending ≠ refusal n)
    (hfollows : ∀ s', Follows key i s' f → Follows key i (s'.run (told report.ending)).2 g) :
    Since key i f₀ s g := by
  have hmet : met f₀ g = met f₀ f ++ [report.ending] := by
    rw [← met_complete h.completed id report]
    simp only [met, hcompleted, Floor.complete]
  refine ⟨hcompleted ▸ h.completed.trans (List.prefix_append _ _), ?_, ?_⟩
  · rw [hmet]
    intro fate hfate
    rcases List.mem_append.1 hfate with hfate | hfate
    · exact h.unrefused fate hfate
    · exact List.mem_singleton.1 hfate ▸ hunrefused
  · -- The standalone breaker goes on from where the earlier fates have left it.
    rw [hmet, List.flatMap_append, Session.run_append, List.flatMap_singleton]
    exact hfollows _ h.follows

/-! ## Calls that wait -/

/-- A call in the background gets as far as it can, from a world `w` in which it owes a record. -/
theorem Since.advance {f₀ : CallFloor β} {w : World} {id : String} {began : Nat} {record : Record}
    {fed : List (Outcome β)} {x : Activity β (Except (Fault OperationError) β)}
    (h : Since key i f₀ s { f with world := w })
    (hgets : Owes.Gets i Unrefused w (x.advance fed ⟨f.world, record⟩).1
      (x.advance fed ⟨f.world, record⟩).2.2.world) :
    Since key i f₀ s (f.advance id began record fed x) := by
  unfold Floor.advance
  generalize x.advance fed ⟨f.world, record⟩ = result at hgets ⊢
  obtain ⟨pause, fed', s'⟩ := result
  dsimp only at hgets ⊢
  -- The call waits again, has panicked, or has returned and made its record.
  cases hgets with
  | waiting hsame howes =>
    -- One more call waits, and it owes its record still.
    refine h.of_completed_eq rfl fun t ht => ht.of_sameBreakers hsame fun j hj => ?_
    rcases List.mem_append.1 hj with hj | hj
    · exact ht.owing j hj
    · obtain rfl := List.mem_singleton.1 hj
      exact howes
  | panicked message hsame =>
    -- A panic is the fate of the call, and the standalone breaker is not told of it.
    exact h.complete rfl (fun n => by simp [refusal, Record.report]) fun t ht =>
      ht.of_sameBreakers hsame ht.owing
  | @returned _ result hresult hsame =>
    refine h.complete rfl (fun n => ?_) fun t ht => ht.settled hsame ht.owing
    have hne := hresult n
    simpa [refusal, Record.report] using hne

/-- What calls that wait come to is followed. -/
theorem kept_since (key : String) (i : Nat) (f₀ : CallFloor β) (s : Session) :
    Floor.Kept (Since key i f₀ s) where
  atTime f t h := h.of_completed_eq rfl fun t ht => ht.of_sameBreakers ⟨rfl, rfl, rfl⟩ ht.owing
  wake f j others h hj hothers wake := by
    -- Without the call that goes on, the others owe what they owed.
    have hrest : Since key i f₀ s { f with jobs := others } :=
      h.of_completed_eq rfl fun t ht => ht.of_sameBreakers (.refl _) fun k hk =>
        ht.owing k (hothers hk)
    exact hrest.advance ((h.follows.owing j hj wake).advance j.fed ⟨f.world, j.record⟩)
  fed f id outcome h := by
    refine h.of_completed_eq rfl fun t ht => ht.of_sameBreakers (.refl _) fun j hj => ?_
    obtain ⟨k, hk, rfl⟩ := List.mem_map.1 hj
    -- An outcome that is kept for later changes nothing of what is left of the call.
    by_cases hid : k.id = id
    · rw [if_pos hid]
      exact ht.owing k hk
    · rw [if_neg hid]
      exact ht.owing k hk
  drop f j others id h hj hothers := by
    refine h.complete rfl (fun n => by simp [refusal, Record.report]) fun t ht => ?_
    exact ht.of_sameBreakers (.leaves _ _) fun k hk => ht.owing k (hothers hk)

/-! ## Steps from outside

A permit that is taken or given back from outside changes no breaker and no call.
-/

/-- Giving a permit back from outside. -/
private theorem giveBack_frame (f : CallFloor β) (holder : String) :
    f.world.SameBreakers (f.giveBack holder).2.world ∧ (f.giveBack holder).2.jobs = f.jobs ∧
      (f.giveBack holder).2.completed = f.completed := by
  unfold Floor.giveBack
  split
  · exact ⟨.refl _, rfl, rfl⟩
  · exact ⟨.leave _ _, rfl, rfl⟩

/-- Taking a permit from outside. -/
private theorem hold_frame (f : CallFloor β) (holder : String) (j : Nat) :
    f.world.SameBreakers (f.hold holder j).2.world ∧ (f.hold holder j).2.jobs = f.jobs ∧
      (f.hold holder j).2.completed = f.completed := by
  have hsame := World.SameBreakers.enter f.world j
  unfold Floor.hold
  split
  · next heq =>
    rw [heq] at hsame
    exact ⟨hsame, rfl, rfl⟩
  · next world heq =>
    -- A permit that the holder had before is given back.
    rw [heq] at hsame
    obtain ⟨hback, hjobs, hcompleted⟩ := giveBack_frame { f with world } holder
    exact ⟨hsame.trans hback, hjobs, hcompleted⟩

/-- A step that makes no call and does not move the clock of the breakers is followed. -/
theorem Follows.step (h : Follows key i s f) {t : Floor.Step β (Except (Fault OperationError) β)}
    (hstart : isStart t = false) (hadvance : ∀ span, t ≠ .advance span) :
    Since key i f s (f.step t).2 := by
  -- What changes no breaker, no call and no report is followed without a word to the standalone
  -- breaker.
  have framed (g : CallFloor β) (hg : f.world.SameBreakers g.world ∧ g.jobs = f.jobs ∧
      g.completed = f.completed) : Since key i f s g :=
    h.since.of_completed_eq hg.2.2 fun t ht => ht.of_sameBreakers hg.1 (hg.2.1 ▸ ht.owing)
  refine (kept_since key i f s).step h.since t ?_ ?_ ?_ ?_
  · intro id x heq
    simp [heq, isStart] at hstart
  · intro span clock heq
    exact absurd heq (hadvance span)
  · intro holder j
    exact framed _ (hold_frame f holder j)
  · intro holder
    exact framed _ (giveBack_frame f holder)

/-- No breaker is under the key, and no call waits. -/
structure Unbegun (key : String) (f : CallFloor β) : Prop where
  unregistered : f.world.registry.breakers.find? key = none
  jobs : f.jobs = []

/-- What changes neither the breakers' directory nor the calls leaves it at that. -/
private theorem Unbegun.of_frame (h : Unbegun key f)
    (hdirectory : g.world.registry.breakers = f.world.registry.breakers)
    (hjobs : g.jobs = f.jobs) : Unbegun key g :=
  ⟨hdirectory ▸ h.unregistered, hjobs.trans h.jobs⟩

/-- A step that makes no call leaves it at that. -/
theorem Unbegun.step (h : Unbegun key f) {t : Floor.Step β (Except (Fault OperationError) β)}
    (hstart : isStart t = false) : Unbegun key (f.step t).2 := by
  -- No call waits, so none goes on, is fed or is dropped.
  have hkept : Floor.Kept (Unbegun (β := β) key) := by
    refine ⟨fun f t h => h.of_frame rfl rfl, ?_, fun f id outcome h => ?_, ?_⟩
    · intro f j others h hj
      simp [h.jobs] at hj
    · exact h.of_frame rfl (by simp [h.jobs])
    · intro f j others id h hj
      simp [h.jobs] at hj
  refine hkept.step h t ?_ (fun _ _ _ => h.of_frame rfl rfl) ?_ ?_
  · intro id x heq
    simp [heq, isStart] at hstart
  · intro holder j
    obtain ⟨hsame, hjobs, -⟩ := hold_frame f holder j
    exact h.of_frame hsame.directory hjobs
  · intro holder
    obtain ⟨hsame, hjobs, -⟩ := giveBack_frame f holder
    exact h.of_frame hsame.directory hjobs

end Simulation

end Safeguard
