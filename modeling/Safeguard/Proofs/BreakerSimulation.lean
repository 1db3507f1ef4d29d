import Safeguard.Proofs.StandaloneBreaker

/-!
# The breaker of a name follows a standalone breaker

However calls under one name are interleaved and whatever their other layers do, the breaker of the
name is at every moment what a standalone breaker would be that is asked for admission once for each
call that the bulkhead lets through, and is told once how each admitted call has ended. A call is
refused if and only if the standalone breaker refuses it.

## Key results

- `foreground_since`: a call in the foreground, with the calls that go on meanwhile
- `Ready.start`, `Ready.call`: the turns that make a call
- `follows_standalone`: the simulation, over every history of calls under one name
-/

namespace Safeguard

namespace Simulation

open Activity (Owes)
open Breaker (Operation Session)
open Orchestrator (Unrefused letThrough)

variable {β : Type} {key : String} {i : Nat} {s : Session} {f g : CallFloor β}

/-! ## Calls -/

/-- What a call in the foreground comes to is followed, and so is what becomes of the calls that
wait meanwhile. -/
structure SinceCall (key : String) (i : Nat) (f₀ : CallFloor β) (s : Session) (fate : Fate β)
    (f : CallFloor β) : Prop where
  completed : f₀.completed <+: f.completed
  unrefused : ∀ other ∈ met f₀ f, ∀ n, other ≠ refusal n
  own : ∀ n, fate ≠ refusal n
  follows : Follows key i (s.run ((met f₀ f).flatMap told ++ told fate)).2 f

/-- A call that ends, panics or hangs after the others. -/
theorem Since.call {f₀ : CallFloor β} {fate : Fate β} (h : Since key i f₀ s f)
    (hcompleted : g.completed = f.completed) (hown : ∀ n, fate ≠ refusal n)
    (hfollows : ∀ t, Follows key i t f → Follows key i (t.run (told fate)).2 g) :
    SinceCall key i f₀ s fate g := by
  have hmet : met f₀ g = met f₀ f := by
    simp only [met, hcompleted]
  refine ⟨hcompleted ▸ h.completed, hmet ▸ h.unrefused, hown, ?_⟩
  rw [hmet, Session.run_append]
  exact hfollows _ h.follows

/-- A call in the foreground that owes a record. -/
theorem foreground_since {f₀ : CallFloor β} {x : Activity β (Except (Fault OperationError) β)}
    (hx : x.Owes i Unrefused) (record : Record) (h : Since key i f₀ s f) :
    SinceCall key i f₀ s (Floor.foreground x record f).1 (Floor.foreground x record f).2.2 := by
  -- The timers run while the call waits, so the floor changes along the induction.
  induction hx generalizing record f with
  | @settle success next hcloses =>
    -- After the record the call goes to its end, and no timer has a turn.
    obtain ⟨result, s', hreaches, ⟨rfl, hresult⟩, hsame⟩ :=
      hcloses.reaches ⟨f.world.settle i success, record⟩
    have hend : Floor.foreground (.act (.settle i result.isOk) next) record f =
        (some (.returned result), s'.record, { f with world := s'.world }) :=
      hreaches.foreground_eq f
    rw [hend]
    refine h.call rfl (fun n => ?_) fun t ht => ht.settled hsame ht.owing
    simpa [refusal] using hresult n
  | panicked message =>
    exact h.call rfl (fun n => by simp [refusal, Floor.foreground]) fun t ht => ht
  | act he _ ih =>
    refine ih _ _ (h.of_completed_eq rfl fun t ht => ht.of_sameBreakers ?_ ht.owing)
    exact he.sameBreakers ⟨f.world, record⟩
  | wait _ ih =>
    simp only [Floor.foreground]
    split
    · exact ih _ record ((kept_since key i f₀ s).runUpTo _ h)
    · -- Nothing ends the wait: the call stays where it is, and there is nothing to record.
      exact h.call rfl (fun n => by simp [refusal]) fun t ht => ht

/-- The floor is ready for a call that asks for a breaker with a policy. -/
structure Ready (key : String) (policy : BreakerPolicy) (i : Nat) (s : Session) (f : CallFloor β) :
    Prop where
  expects : f.world.Expects key policy i s.breaker
  clock : s.clock = f.world.clock
  name : s.breaker.name = key
  owing : AllOwe i f.jobs

variable {name : String} {c : Request β}

/-- A call begins: the standalone breaker is asked if the bulkhead lets the call through, and then
the call is turned away, is refused or owes a record. -/
theorem Ready.begins (h : Ready (breakerKey name) c.policy i s f) :
    ∃ y s', (c.activity name).Reaches ⟨f.world, .empty⟩ y s' ∧
      Follows (breakerKey name) i
        (s.run (if letThrough name c.options f.world then [.tryAcquire] else [] :
          List (Operation β))).2 { f with world := s'.world } ∧
      (letThrough name c.options f.world = false ∧
          (∃ n limit, y = .ended (.returned (.error (.bulkheadFull n limit)))) ∨
        letThrough name c.options f.world = true ∧ s.breaker.admits s.clock.now = false ∧
          y = .ended (.returned (.error (.circuitOpen (breakerKey name)))) ∨
        letThrough name c.options f.world = true ∧ s.breaker.admits s.clock.now = true ∧
          y.Owes i Unrefused) := by
  obtain ⟨y, s', hreaches, hclock, hentered⟩ := Orchestrator.call_enters c.valid c.breaker_eq
    h.expects c.script.meets_operation .empty
  have hnow : f.world.clock = s.clock := h.clock.symm
  -- The standalone breaker and the one under the key are asked at the same time.
  have hasked (ht : s'.world.Tracks (breakerKey name) i (s.breaker.acquire s.clock.now)) :
      Follows (breakerKey name) i (s.run [.tryAcquire (β := β)]).2 { f with world := s'.world } :=
    ⟨ht, hnow.symm.trans hclock.symm, (Breaker.name_acquire ..).trans h.name, h.owing⟩
  refine ⟨y, s', hreaches, ?_⟩
  rw [hnow] at hentered
  cases hentered with
  | turnedAway hthrough ht n limit =>
    rw [hthrough]
    exact ⟨⟨ht, hnow.symm.trans hclock.symm, h.name, h.owing⟩, .inl ⟨rfl, n, limit, rfl⟩⟩
  | refused hthrough hrefuses ht =>
    rw [hthrough]
    exact ⟨hasked ht, .inr (.inl ⟨rfl, hrefuses, by rw [h.name]⟩)⟩
  | admitted hthrough hadmits ht howes =>
    rw [hthrough]
    exact ⟨hasked ht, .inr (.inr ⟨rfl, hadmits, howes⟩)⟩

/-- A round in which the call that is made has ended before it owed a record. -/
structure EndedRound (key : String) (i : Nat) (s : Session)
    (ending : Ending (Except (Fault OperationError) β)) (r : Round β) : Prop where
  during : r.during = []
  own : r.own = [some ending]
  later : ∀ fate ∈ r.later, ∀ n, fate ≠ refusal n
  follows : Follows key i (s.run (r.later.flatMap told)).2 r.floor

/-- A round in which the call that is made owes a record. -/
structure OwedRound (key : String) (i : Nat) (s : Session) (r : Round β) : Prop where
  unrefused : ∀ fate ∈ r.during ++ r.own ++ r.later, ∀ n, fate ≠ refusal n
  follows : Follows key i
    (s.run (r.during.flatMap told ++ r.own.flatMap told ++ r.later.flatMap told)).2 r.floor

/-- A round that makes a call is followed, once it is known what comes of calls that have begun. -/
private theorem Ready.followed {r : Round β} (h : Ready (breakerKey name) c.policy i s f)
    (hmade : r.made = some c)
    (hended : ∀ ending s' t, (c.activity name).Reaches ⟨f.world, .empty⟩ (.ended ending) s' →
      Follows (breakerKey name) i t { f with world := s'.world } →
        EndedRound (breakerKey name) i t ending r)
    (howed : ∀ y s' t, (c.activity name).Reaches ⟨f.world, .empty⟩ y s' → y.Owes i Unrefused →
      Follows (breakerKey name) i t { f with world := s'.world } →
        OwedRound (breakerKey name) i t r) :
    Follows (breakerKey name) i (s.run (r.operations name f.world s)).2 r.floor ∧
      Answered name f.world s r := by
  obtain ⟨y, s', hreaches, hfollows, hfate⟩ := h.begins
  -- There is one call in the round, so what its bulkhead answers is what is asked for.
  have honly : ∀ c' ∈ r.made,
      letThrough name c'.options f.world = letThrough name c.options f.world := by
    intro c' hc'
    obtain rfl : c = c' := by simpa [hmade] using hc'
    rfl
  rcases hfate with ⟨hlets, n, limit, rfl⟩ | ⟨hlets, hadmits, rfl⟩ | ⟨hlets, hadmits, howes⟩
  · -- The bulkhead has turned the call away.
    obtain ⟨hduring, hown, hlater, hround⟩ := hended _ s' _ hreaches hfollows
    rw [hlets] at hround
    have hidle : Follows (breakerKey name) i (s.run (r.operations name f.world s)).2 r.floor := by
      simpa [Round.operations, hmade, hlets, hduring] using hround
    refine ⟨hidle, ?_, ?_, ?_, ?_⟩
    · simpa [hduring] using hlater
    · exact fun _ _ _ => ⟨n, limit, hown⟩
    · exact fun c' hc' hlets' => absurd ((honly c' hc').trans hlets) (by simp [hlets'])
    · exact fun c' hc' hlets' => absurd ((honly c' hc').trans hlets) (by simp [hlets'])
  · -- The breaker has refused the call, and so does the standalone breaker.
    obtain ⟨hduring, hown, hlater, hround⟩ := hended _ s' _ hreaches hfollows
    rw [hlets] at hround
    have hasked : Follows (breakerKey name) i (s.run (r.operations name f.world s)).2 r.floor := by
      simpa [Round.operations, hmade, hlets, hadmits, hduring] using hround
    refine ⟨hasked, ?_, ?_, ?_, ?_⟩
    · simpa [hduring] using hlater
    · exact fun c' hc' hlets' => absurd ((honly c' hc').trans hlets) (by simp [hlets'])
    · exact fun _ _ _ _ => hown
    · exact fun _ _ _ hadmits' => absurd hadmits (by simp [hadmits'])
  · -- Both have admitted it.
    obtain ⟨hunrefused, hround⟩ := howed y s' _ hreaches howes hfollows
    rw [hlets] at hround
    have htold : Follows (breakerKey name) i (s.run (r.operations name f.world s)).2 r.floor := by
      simpa [Round.operations, hmade, hlets, hadmits] using hround
    refine ⟨htold, ?_, ?_, ?_, ?_⟩
    · intro fate hfate
      apply hunrefused
      rcases List.mem_append.1 hfate with hfate | hfate
      · simp [hfate]
      · simp [hfate]
    · exact fun c' hc' hlets' => absurd ((honly c' hc').trans hlets) (by simp [hlets'])
    · exact fun _ _ _ hadmits' => absurd hadmits (by simp [hadmits'])
    · intro _ _ _ _ fate hfate
      apply hunrefused
      simp [hfate]

/-- A call in the background is followed up to its first wait. -/
theorem Ready.start (h : Ready (breakerKey name) c.policy i s f) (id : String) :
    Follows (breakerKey name) i (s.run ((Turn.start id c).operations name f s)).2
        ((Turn.start id c).round name f).floor ∧
      Answered name f.world s ((Turn.start id c).round name f) := by
  refine h.followed rfl (fun ending s' t hreaches ht => ?_) fun y s' t hreaches howes ht => ?_
  · -- The call has ended in its first moment, so it is the last on the list.
    let report := s'.record.report f.world.now s'.world.now (some ending)
    have hstart : f.start id (c.activity name) =
        ({ f with world := s'.world } : CallFloor β).complete id report := by
      unfold Floor.start Floor.advance
      rw [hreaches.advance_eq]
      rfl
    have hmet : met f (f.start id (c.activity name)) = [some ending] := by
      rw [hstart]
      simp [met, Floor.complete, report, Record.report]
    have hkept : Follows (breakerKey name) i t (f.start id (c.activity name)) := by
      rw [hstart]
      exact ht.of_sameBreakers (.refl _) ht.owing
    have hlater : ∀ fate ∈ ((Turn.start id c).round name f).later, ∀ n, fate ≠ refusal n := by
      simp [Turn.round]
    exact ⟨rfl, hmet, hlater, hkept⟩
  · -- The call goes on from what it has reached, in the world of that moment.
    have hsince : Since (breakerKey name) i { f with world := s'.world } t
        (f.start id (c.activity name)) := by
      refine ht.since.advance ?_
      rw [hreaches.advance_eq]
      exact howes.advance [] s'
    have hunrefused : ∀ fate ∈ met f (f.start id (c.activity name)), ∀ n, fate ≠ refusal n :=
      hsince.unrefused
    have hfollows : Follows (breakerKey name) i
        (t.run ((met f (f.start id (c.activity name))).flatMap told)).2
        (f.start id (c.activity name)) := hsince.follows
    exact ⟨by simpa [Turn.round] using hunrefused, by simpa [Turn.round] using hfollows⟩

/-- A call in the foreground is followed to its end, with the calls that go on meanwhile. -/
theorem Ready.call (h : Ready (breakerKey name) c.policy i s f) :
    Follows (breakerKey name) i (s.run ((Turn.call c).operations name f s)).2
        ((Turn.call c).round name f).floor ∧
      Answered name f.world s ((Turn.call c).round name f) := by
  refine h.followed rfl (fun ending s' t hreaches ht => ?_) fun y s' t hreaches howes ht => ?_
  · -- The call has ended in its first moment; then the timers of that moment go off.
    have hforeground : Floor.foreground (c.activity name) .empty f =
        (some ending, s'.record, { f with world := s'.world }) :=
      hreaches.foreground_eq f
    have hsince := (kept_since (breakerKey name) i { f with world := s'.world } t).runUntil
      s'.world.now ht.since
    simp only [Turn.round, Floor.call, hforeground]
    exact ⟨met_self _, rfl, hsince.unrefused, hsince.follows⟩
  · -- The floor `g` is the one on which the call ends.
    have hcall := foreground_since howes s'.record ht.since
    have hforeground : Floor.foreground (c.activity name) .empty f =
        Floor.foreground y s'.record { f with world := s'.world } :=
      hreaches.foreground_eq f
    rw [← hforeground] at hcall
    let g := (Floor.foreground (c.activity name) .empty f).2.2
    have hsince := (kept_since (breakerKey name) i g _).runUntil g.world.now hcall.follows.since
    refine ⟨?_, ?_⟩
    · intro fate hfate
      rcases List.mem_append.1 hfate with hfate | hfate
      · rcases List.mem_append.1 hfate with hfate | hfate
        · exact hcall.unrefused fate hfate
        · exact List.mem_singleton.1 hfate ▸ hcall.own
      · exact hsince.unrefused fate hfate
    · rw [Session.run_append]
      have hown (fate : Fate β) : [fate].flatMap told = told fate := List.flatMap_singleton ..
      simp only [Turn.round, hown]
      exact hsince.follows

/-! ## Histories -/

/-- The floor and the standalone breaker agree: there is no breaker and no call yet, or one follows
the other. -/
def Simulated (name : String) (p : Stage β) : Prop :=
  match p.session with
  | none => Unbegun (breakerKey name) p.floor
  | some s => ∃ i, Follows (breakerKey name) i s p.floor

/-- The floor is ready for every call, and the standalone breaker for the first one. -/
private theorem Simulated.ready {s : Option Session} (h : Simulated name ⟨f, s⟩) (c : Request β) :
    ∃ i s', s.or (some (standalone name c.policy f.world.clock)) = some s' ∧
      Ready (breakerKey name) c.policy i s' f := by
  cases s with
  | none =>
    -- The call makes the next breaker.
    have hjobs : f.jobs = [] := Unbegun.jobs h
    refine ⟨f.world.breakers.length, standalone name c.policy f.world.clock, rfl, ?_⟩
    exact ⟨.inr ⟨Unbegun.unregistered h, rfl, rfl⟩, rfl, rfl, by simp [hjobs, AllOwe]⟩
  | some s =>
    obtain ⟨i, hfollows⟩ := h
    exact ⟨i, s, rfl, .inl hfollows.tracks, hfollows.clock, hfollows.name, hfollows.owing⟩

/-- Both clocks are moved alike. -/
theorem Follows.advance (h : Follows key i s f) (span : Duration) :
    Follows key i (s.run [.advance (β := β) span]).2 (f.step (.advance span)).2 := by
  have hsession : (s.run [.advance (β := β) span]).2 =
      { s with clock := (s.clock.advance? span).getD s.clock } := Session.perform_advance s span
  rw [hsession]
  have hclock := h.clock
  simp only [Floor.step]
  -- Both clocks refuse the same spans.
  split
  · next clock heq =>
    rw [hclock, heq]
    exact ⟨⟨h.tracks.registered, h.tracks.breaker⟩, rfl, h.name, h.owing⟩
  · next heq =>
    rw [hclock, heq]
    exact ⟨h.tracks, rfl, h.name, h.owing⟩

/-- A turn without a call is followed. -/
theorem Follows.turn (h : Follows (breakerKey name) i s f)
    {t : Floor.Step β (Except (Fault OperationError) β)} (hstart : isStart t = false) :
    Follows (breakerKey name) i (s.run ((Turn.step t hstart).operations name f s)).2 (f.step t).2 ∧
      ∀ fate ∈ met f (f.step t).2, ∀ n, fate ≠ refusal n := by
  -- Moving the clock is told to the standalone breaker, every other step is read off the floor.
  by_cases hadvance : ∃ span, t = .advance span
  · obtain ⟨span, rfl⟩ := hadvance
    refine ⟨h.advance span, ?_⟩
    have hmet : met f (f.step (.advance span)).2 = [] := by
      simp only [met, Floor.step]
      split <;> simp
    simp [hmet]
  · have hsince := h.step hstart fun span heq => hadvance ⟨span, heq⟩
    have hoperations : (Turn.step t hstart).operations name f s =
        (met f (f.step t).2).flatMap told := by
      cases t with
      | advance span => exact absurd ⟨span, rfl⟩ hadvance
      | _ => simp [Turn.operations, Round.operations, Turn.round]
    rw [hoperations]
    exact ⟨hsince.follows, hsince.unrefused⟩

/-- Where no call is made, only those that have waited are answered. -/
private theorem answered_of_step {w : World} {r : Round β} (hmade : r.made = none)
    (hlater : r.later = []) (hduring : ∀ fate ∈ r.during, ∀ n, fate ≠ refusal n) :
    Answered name w s r where
  waited := by simpa [hlater] using hduring
  turnedAway := by simp [hmade]
  refused := by simp [hmade]
  admitted := by simp [hmade]

/-- One turn: the floor and the standalone breaker agree after it, and a call that it makes is
answered as the standalone breaker answers it. -/
theorem Simulated.turn {p : Stage β} (h : Simulated name p) (t : Turn β) :
    Simulated name (follow name p t) ∧
      ∀ s ∈ t.session name p, Answered name p.floor.world s (t.round name p.floor) := by
  obtain ⟨f, s⟩ := p
  -- A call begins with a breaker under its key, whether it was there or was made by the call.
  cases t with
  | start id c =>
    obtain ⟨i, s', hsession, hready⟩ := h.ready c
    replace hsession : (Turn.start id c).session name ⟨f, s⟩ = some s' := hsession
    obtain ⟨hfollows, hanswered⟩ := hready.start id
    simp only [Simulated, follow, hsession, Option.map_some, Option.mem_some_iff]
    exact ⟨⟨i, hfollows⟩, fun _ heq => heq ▸ hanswered⟩
  | call c =>
    obtain ⟨i, s', hsession, hready⟩ := h.ready c
    replace hsession : (Turn.call c).session name ⟨f, s⟩ = some s' := hsession
    obtain ⟨hfollows, hanswered⟩ := hready.call
    simp only [Simulated, follow, hsession, Option.map_some, Option.mem_some_iff]
    exact ⟨⟨i, hfollows⟩, fun _ heq => heq ▸ hanswered⟩
  | step t hstart =>
    have hsession : (Turn.step t hstart).session name ⟨f, s⟩ = s := Option.or_none
    cases s with
    | none =>
      simp only [Simulated, follow, hsession, Option.map_none]
      exact ⟨Unbegun.step h hstart, nofun⟩
    | some s =>
      obtain ⟨i, hfollows⟩ := h
      obtain ⟨hfollows', hunrefused⟩ := hfollows.turn hstart
      simp only [Simulated, follow, hsession, Option.map_some, Option.mem_some_iff]
      exact ⟨⟨i, hfollows'⟩, fun _ _ => answered_of_step rfl rfl hunrefused⟩

/-- A history of calls under one name keeps the floor and the standalone breaker in agreement. -/
private theorem simulated_run {w : World}
    (hnew : w.registry.breakers.find? (breakerKey name) = none)
    (history : List (Turn β)) : Simulated name (run name w history) := by
  -- Induction on the history, from any stage on.
  have hfold (p : Stage β) (hp : Simulated name p) :
      Simulated name (history.foldl (follow name) p) := by
    induction history generalizing p with
    | nil => exact hp
    | cons t history ih => exact ih _ (hp.turn t).1
  exact hfold _ ⟨hnew, rfl⟩

/-- The breaker of a name follows a standalone breaker. Take any history of calls under one name
that all ask for a breaker, each with policies in order, with any other layers, scripts, outcomes
from outside, drops and moves of the two clocks, in the foreground or interleaved at their waits.
Then the breaker under the key of the name is, in all its fields, the standalone breaker that has
the policy of the first call and is asked and told what `Turn.operations` reads off the turns, and
every call that the next turn makes is answered as that breaker answers it. -/
theorem follows_standalone (name : String) (w : World)
    (hnew : w.registry.breakers.find? (breakerKey name) = none) (history : List (Turn β)) :
    let p := run name w history
    p.floor.world.breaker? (breakerKey name) = p.session.map (·.breaker) ∧
      ∀ t : Turn β, ∀ s ∈ t.session name p,
        Answered name p.floor.world s (t.round name p.floor) := by
  intro p
  have h : Simulated name p := simulated_run hnew history
  refine ⟨?_, fun t => (h.turn t).2⟩
  unfold Simulated at h
  cases hsession : p.session with
  | none =>
    rw [hsession] at h
    simp [World.breaker?, h.unregistered]
  | some s =>
    rw [hsession] at h
    obtain ⟨i, hfollows⟩ := h
    exact hfollows.tracks.breaker?_eq

/-- A call waits for its outcome while another one is made, and fails. -/
theorem follows_standalone_fed :
    let c : Request Nat := ⟨{ Options.none with breaker := some .standard }, .standard, rfl,
      Options.valid_breaker rfl, .repeating .gated⟩
    let history : List (Turn Nat) := [.start "first" c, .start "second" c,
      .step (.feed "first" (.error ⟨"down"⟩)) rfl]
    let p := run "api" (.start true) history
    (World.start true).registry.breakers.find? (breakerKey "api") = none ∧
      (p.floor.world.breaker? (breakerKey "api")).map (·.failures) = some 1 ∧
      p.floor.world.breaker? (breakerKey "api") = p.session.map (·.breaker) := by
  intro c history p
  have hnew : (World.start true).registry.breakers.find? (breakerKey "api") = none := rfl
  have hone : (p.floor.world.breaker? (breakerKey "api")).map (·.failures) = some 1 := by
    decide +kernel
  exact ⟨hnew, hone, (follows_standalone "api" _ hnew history).1⟩

end Simulation

end Safeguard
