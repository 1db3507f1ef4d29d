import Safeguard.Proofs.CallMirror
import Safeguard.Proofs.LoneActivity

/-!
# Names are isolated from each other

A run makes calls one after another, under any names, and in between the clock of the breakers is
moved, time passes and breakers are reset by their keys (`Orchestrator.SerialStep`). What is told of
the calls under one name, and the breaker and the bulkhead of that name at the end, do not depend on
the steps that concern other names: they may be left out.

One step at a time, that is two facts. A step that does not concern a name leaves the world as it is
for the name (`SerialStep.alike_of_not_concerns`), and a step that concerns it does the same in
worlds that are alike for it (`SerialStep.mirrored`). The run follows by induction
(`reports_filter`).

## Key results

- `call_alike_of_ne`: a call under one name in the world of another
- `names_isolated`: a run without the steps that concern other names
-/

namespace Safeguard

variable {β γ : Type}

/-! ## Effects that avoid the instances of a name -/

/-- What an activity keeps in the world, if its effects and time keep it. -/
theorem Activity.Meets.run_keeps {E : Effect → Prop} {R : γ → Prop} {x : Activity β γ}
    {P : World → Prop} (hx : x.Meets E R)
    (hperform : ∀ (s : Scene) e, E e → P s.world → P (s.perform e).2.world)
    (hafter : ∀ w ms, P w → P (w.after ms)) {s : Scene} (h : P s.world) :
    P (x.run s).2.world := by
  induction hx generalizing s with
  | returned | panicked => exact h
  | act he _ ih => exact ih _ (hperform s _ he h)
  | @wait w next _ _ ih =>
    -- A wait for an outcome from outside is where the run stops.
    rcases Option.eq_none_or_eq_some w.limit with hnone | ⟨ms, hms⟩
    · rw [run_stuck hnone]
      exact h
    · rw [run_wait hms]
      exact ih _ (hafter _ _ h)

/-- An effect that registers nothing and does not touch the breaker or the bulkhead that stands in a
registry under the keys of a name. -/
def Effect.Avoids (name : String) (registry : Registry) : Effect → Prop
  | clock | invoke | conclude | tell _ => True
  | findBreaker _ _ | findBulkhead _ _ => False
  | acquire i | settle i _ => registry.breakers.find? (breakerKey name) ≠ some i
  | enter j | leave j => registry.bulkheads.find? (bulkheadKey name) ≠ some j

namespace Effect

variable {name : String} {registry : Registry} {e : Effect}

/-- What any attempt may do avoids every instance. -/
private theorem Plain.avoids (he : e.Plain) : e.Avoids name registry := by
  cases e with
  | clock | invoke | conclude | tell => trivial
  | _ => exact he.elim

/-- Such an effect leaves the world as it is for the name. -/
theorem Avoids.alike {s : Scene} (he : e.Avoids name s.world.registry) :
    s.world.Alike name (s.perform e).2.world ∧
      (s.perform e).2.world.registry = s.world.registry := by
  have hclock : s.world.clock = (s.perform e).2.world.clock := (World.clock_perform s e).symm
  cases e with
  | clock | invoke | conclude | tell => exact ⟨⟨rfl, rfl, rfl⟩, rfl⟩
  | findBreaker | findBulkhead => exact he.elim
  | acquire i | settle i success =>
    refine ⟨⟨?_, ?_, hclock⟩, World.registry_stepBreaker ..⟩
    -- The breaker that moves is another one.
    · exact (World.breaker?_stepBreaker_of_ne he _ _).symm
    · exact (World.bulkhead?_stepBreaker _ i _ _).symm
  | enter j | leave j =>
    refine ⟨⟨?_, ?_, hclock⟩, World.registry_stepBulkhead ..⟩
    · exact (World.breaker?_stepBulkhead _ j _ _).symm
    -- The bulkhead that moves is another one.
    · exact (World.bulkhead?_stepBulkhead_of_ne he _ _).symm

end Effect

/-- An activity whose effects avoid the instances of a name leaves the world as it is for it. -/
private theorem Activity.Meets.run_alike {R : γ → Prop} {name : String} {s : Scene}
    {x : Activity β γ} (hx : x.Meets (Effect.Avoids name s.world.registry) R) :
    s.world.Alike name (x.run s).2.world := by
  have hkept := hx.run_keeps
    (P := fun w => s.world.Alike name w ∧ w.registry = s.world.registry) ?_ ?_ ⟨.refl name _, rfl⟩
  · exact hkept.1
  · intro s' e he h
    -- The registry is what it was, so the effect avoids what stands in it now.
    rw [← h.2] at he
    obtain ⟨halike, hregistry⟩ := he.alike
    exact ⟨h.1.trans halike, hregistry.trans h.2⟩
  · intro w ms h
    exact ⟨h.1.trans ⟨rfl, rfl, rfl⟩, h.2⟩

namespace Orchestrator

/-- A call has to do with the layers that it has found, and with nothing else. -/
theorem meets_layered {E : Effect → Prop} (hplain : ∀ e : Effect, e.Plain → E e) {layers : Layers}
    (hbreaker : ∀ i ∈ layers.breaker, E (.acquire i) ∧ ∀ success, E (.settle i success))
    (hbulkhead : ∀ j ∈ layers.bulkhead, E (.enter j) ∧ E (.leave j))
    {operation : Activity β (Except OperationError γ)}
    (hop : operation.Meets Effect.Plain fun _ => True) :
    (layered layers operation).Meets E fun _ => True := by
  have htell (notice : Notice) : E (.tell notice) := hplain _ trivial
  -- From the inside out: the attempts, then the breaker, then the bulkhead.
  obtain ⟨bulkhead, breaker, deadline, retry⟩ := layers
  have hinner := (meets_retried (fun _ => trivial) retry
    (meets_attempt trivial (fun _ => trivial) deadline hop)).mono hplain fun _ _ => trivial
  have hbroken : (layered ⟨none, breaker, deadline, retry⟩ operation).Meets E fun _ => True := by
    cases breaker with
    | none => exact hinner
    | some i =>
      obtain ⟨hacquire, hsettle⟩ := hbreaker i rfl
      refine (Activity.Meets.act hacquire fun answer => ?_).map (R := fun _ => True) fun _ => id
      cases answer with
      | error rejection => exact .telling (fun _ _ => htell _) (.returned trivial)
      | ok _ =>
        refine hinner.bind fun result _ => ?_
        cases result with
        | ok v => exact .act (hsettle _) fun _ => .returned trivial
        | error fault =>
          exact .act (hsettle _) fun _ => .telling (fun _ _ => htell _) (.returned trivial)
  cases bulkhead with
  | none => exact hbroken
  | some j =>
    obtain ⟨henter, hleave⟩ := hbulkhead j rfl
    refine (Activity.Meets.act henter fun answer => ?_).map (R := fun _ => True) fun _ => id
    cases answer with
    | error rejection => exact .returned trivial
    | ok _ => exact .holding hleave (hbroken.map fun _ => id)

/-- The number that a call gets for a layer stands under the key. -/
theorem Stands.found_eq {π : Type} {asked : Option π} {found number : Option Nat}
    (h : Stands asked found number) {i : Nat} (hi : i ∈ number) : found = some i := by
  cases h with
  | absent => cases hi
  | found hasked hfound => exact hfound.trans hi

/-- A call under another name leaves the world as it is for a name. -/
theorem call_alike_of_ne {w : World} {name other : String} (hnamed : w.Named)
    (hne : other ≠ name) (options : Options) (script : Script β) :
    w.Alike name (w.call (call other options script.operation)).2 := by
  obtain ⟨answer, s, hreaches, -, hregisters, hresolved⟩ :=
    resolve_resolves (β := β) other options ⟨w, .empty⟩
  have hnamed' : s.world.Named := World.abiding_named.reaches hreaches hnamed
  have hcall : (call other options script.operation).Reaches ⟨w, .empty⟩ _ s :=
    .act ((hreaches.bind _).bind _)
  -- What is registered is not seen, and neither is what goes on after that.
  refine (hregisters.alike_of_ne hnamed hne).trans ?_
  show s.world.Alike name ((call other options script.operation).run ⟨w, .empty⟩).2.world
  rw [hcall.run_eq]
  have hplain (e : Effect) (he : e.Plain) : e.Avoids name s.world.registry := he.avoids
  have hreported {x : Activity β (Except (Fault OperationError) β)}
      (hx : x.Meets (Effect.Avoids name s.world.registry) fun _ => True) :
      s.world.Alike name ((reported other w.now x).run s).2.world := by
    refine (hx.bind (S := fun _ => True) fun result _ => ?_).run_alike
    exact .act trivial fun _ => .telling (fun _ _ => trivial) (.returned trivial)
  cases hresolved with
  | refused hfault => exact hreported (.returned trivial)
  | found hvalid hbulkhead hbreaker hdeadline hretry =>
    apply hreported
    apply meets_layered hplain _ _ script.meets_operation
    · intro i hi
      have havoids := hnamed'.breakers.find?_ne (append_ne_append hne _)
        (hbreaker.found_eq hi)
      exact ⟨havoids, fun _ => havoids⟩
    · intro j hj
      have havoids := hnamed'.bulkheads.find?_ne (append_ne_append hne _)
        (hbulkhead.found_eq hj)
      exact ⟨havoids, havoids⟩

end Orchestrator

/-! ## Calls with nothing in the background -/

namespace Floor

variable {ρ : Type}

/-- Nothing waits on a floor without calls. -/
private theorem late_ofWorld (w : World) (t : Nat) :
    Job.Late t (ofWorld w : Floor β ρ).jobs := nofun

/-- An activity in the foreground is alone in its world. -/
private theorem foreground_ofWorld (x : Activity β ρ) (s : Scene) :
    foreground x s.record (ofWorld s.world) =
      ((x.run s).1, (x.run s).2.record, ofWorld (x.run s).2.world) := by
  induction x generalizing s with
  | ended ending => rfl
  | act e next ih => exact ih _ _
  | wait w next ih =>
    -- A wait for an outcome from outside is never over in the foreground.
    rcases Option.eq_none_or_eq_some w.limit with h | ⟨ms, h⟩
    · rw [foreground_stuck h, Activity.run_stuck h]
    · rw [foreground_wait h, Activity.run_wait h, runUpTo_of_late (late_ofWorld _ _)]
      exact ih _ { s with world := s.world.after ms }

/-- A call on a floor without others is a call in its world. -/
private theorem call_ofWorld (w : World) (x : Activity β ρ) :
    (ofWorld w).call x = ((w.call x).1, ofWorld (w.call x).2) := by
  have hforeground := foreground_ofWorld x ⟨w, .empty⟩
  simp only [call, World.call]
  rw [show foreground x .empty (ofWorld w) = _ from hforeground,
    runUntil_of_late (late_ofWorld _ _)]
  rfl

end Floor

/-! ## Runs -/

namespace Orchestrator

/-- One step of a run. -/
inductive SerialStep (β : Type) where
  /-- A call is made and goes on to its end. -/
  | call (name : String) (options : Options) (script : Script β)
  /-- The clock of the breakers is moved. -/
  | advance (span : Duration)
  /-- Time passes. -/
  | sleep (span : Duration)
  /-- The breaker under a key is reset. -/
  | reset (key : String)

namespace SerialStep

/-- What is done in a step. -/
def use : SerialStep β → Floor.Use β (Except (Fault OperationError) β)
  | call name options script => .call (Orchestrator.call name options script.operation)
  | advance span => .step (.advance span)
  | sleep span => .step (.sleep span)
  | reset key => .resetKey key

/-- Whether a step concerns a name: it is a call under the name, it resets the breaker of the name,
or it is about time. -/
def concerns (name : String) : SerialStep β → Bool
  | call other _ _ => other = name
  | advance _ | sleep _ => true
  | reset key => key = breakerKey name

/-- The report on the call that is made in a step, if it is made under a name. -/
def reports (name : String) (f : Floor β (Except (Fault OperationError) β)) :
    SerialStep β → List (Report (Except (Fault OperationError) β))
  | call other options script =>
    if other = name then [(f.call (Orchestrator.call other options script.operation)).1] else []
  | advance _ | sleep _ | reset _ => []

/-- The world after a step, with nothing in the background. -/
def world (w : World) : SerialStep β → World
  | call name options script => (w.call (Orchestrator.call name options script.operation)).2
  | advance span => { w with clock := (w.clock.advance? span).getD w.clock }
  | sleep span => w.after span.sleepMillis
  | reset key => (w.resetKey key).2

/-- A step on a floor without calls is a step of its world. -/
private theorem use_ofWorld (w : World) (t : SerialStep β) :
    (Floor.ofWorld w).use t.use = .ofWorld (t.world w) := by
  cases t with
  | call name options script => exact congrArg Prod.snd (Floor.call_ofWorld w _)
  | advance span =>
    simp only [Floor.use, use, Floor.step, world, Floor.ofWorld]
    cases w.clock.advance? span <;> rfl
  | sleep span => exact Floor.runUntil_of_late (Floor.late_ofWorld w _)
  | reset key => rfl

variable {w w' : World} {name : String} {t : SerialStep β}

/-- Instances are called after their keys after a step if they were before. -/
theorem named (h : w.Named) (t : SerialStep β) : (t.world w).Named := by
  have huses := World.abiding_named.uses (f := Floor.ofWorld w) h [t.use]
  rw [show (Floor.ofWorld w).uses [t.use] = _ from use_ofWorld w t] at huses
  exact huses

/-- A step that does not concern a name leaves the world as it is for the name. -/
theorem alike_of_not_concerns (hnamed : w.Named) (ht : t.concerns name = false) :
    w.Alike name (t.world w) := by
  cases t with
  | call other options script =>
    have hne : other ≠ name := by simpa [concerns] using ht
    exact call_alike_of_ne hnamed hne options script
  | advance | sleep => cases ht
  | reset key =>
    have hne : key ≠ breakerKey name := by simpa [concerns] using ht
    exact hnamed.resetKey_alike hne

/-- It makes no call under the name. -/
private theorem reports_of_not_concerns (f : Floor β (Except (Fault OperationError) β))
    (ht : t.concerns name = false) : t.reports name f = [] := by
  cases t with
  | call other options script =>
    have hne : other ≠ name := by simpa [concerns] using ht
    simp [reports, hne]
  | advance | sleep | reset => rfl

/-- A step that concerns a name does the same in worlds that are alike for it. -/
theorem mirrored (halike : w.Alike name w') (hnamed : w.Named) (hnamed' : w'.Named)
    (ht : t.concerns name = true) :
    t.reports name (.ofWorld w) = t.reports name (.ofWorld w') ∧
      (t.world w).Alike name (t.world w') := by
  cases t with
  | call other options script =>
    obtain rfl : other = name := by simpa [concerns] using ht
    obtain ⟨hreport, hafter⟩ := call_mirrored halike hnamed hnamed' options script
    refine ⟨?_, hafter⟩
    simp only [reports, if_true, Floor.call_ofWorld, hreport]
  | advance span =>
    refine ⟨rfl, halike.breaker, halike.bulkhead, ?_⟩
    simp only [world, halike.clock]
  | sleep span => exact ⟨rfl, halike.after _⟩
  | reset key =>
    obtain rfl : key = breakerKey name := by simpa [concerns] using ht
    exact ⟨rfl, halike.resetKey⟩

end SerialStep

/-- The reports on the calls of a run that are made under a name, one after another. -/
def reports (name : String) (f : Floor β (Except (Fault OperationError) β)) :
    List (SerialStep β) → List (Report (Except (Fault OperationError) β))
  | [] => []
  | t :: steps => t.reports name f ++ reports name (f.use t.use) steps

/-- A run and the same run without the steps that do not concern a name, in worlds that are alike
for the name. -/
theorem reports_filter {w w' : World} {name : String} (halike : w.Alike name w')
    (hnamed : w.Named) (hnamed' : w'.Named) (steps : List (SerialStep β)) :
    let own := steps.filter (·.concerns name)
    reports name (.ofWorld w) steps = reports name (.ofWorld w') own ∧
      ((Floor.ofWorld w).uses (steps.map SerialStep.use)).world.Alike name
        ((Floor.ofWorld w').uses (own.map SerialStep.use)).world := by
  intro own
  -- Induction on the steps: the worlds stay alike, whether or not the other run takes a step too.
  induction steps generalizing w w' with
  | nil => exact ⟨rfl, halike⟩
  | cons t steps ih =>
    have huses (w : World) (steps : List (SerialStep β)) :
        (Floor.ofWorld w).uses ((t :: steps).map SerialStep.use) =
          (Floor.ofWorld (t.world w)).uses (steps.map SerialStep.use) := by
      rw [← SerialStep.use_ofWorld]
      rfl
    have hreports (w : World) (steps : List (SerialStep β)) :
        reports name (.ofWorld w) (t :: steps) =
          t.reports name (.ofWorld w) ++ reports name (.ofWorld (t.world w)) steps := by
      rw [← SerialStep.use_ofWorld]
      rfl
    cases ht : t.concerns name with
    | true =>
      obtain ⟨hreport, hafter⟩ := SerialStep.mirrored halike hnamed hnamed' ht
      obtain ⟨hrest, hend⟩ := ih hafter (SerialStep.named hnamed t) (SerialStep.named hnamed' t)
      have hown : own = t :: steps.filter (·.concerns name) := List.filter_cons_of_pos ht
      rw [hown, hreports, hreports, huses, huses, hreport, hrest]
      exact ⟨rfl, hend⟩
    | false =>
      have hskipped : (t.world w).Alike name w' :=
        (SerialStep.alike_of_not_concerns hnamed ht).symm.trans halike
      obtain ⟨hrest, hend⟩ := ih hskipped (SerialStep.named hnamed t) hnamed'
      have hown : own = steps.filter (·.concerns name) := List.filter_cons_of_neg (by simp [ht])
      rw [hown, hreports, huses, SerialStep.reports_of_not_concerns _ ht, List.nil_append]
      exact ⟨hrest, hend⟩

/-- Names are isolated from each other. An orchestrator is used in any way; calls that still wait
then keep what they hold and do not go on. From then on calls are made one after another, under any
names, while the clock of the breakers is moved, time passes and breakers are reset. Without the
calls under other names than `name` and the resets of other breakers, the calls under `name` are
reported alike: they end in the same way, make the same attempts at the same times since they were
made and take the same time. And the breaker and the bulkhead of the name are the same in the end. A
call whose attempt waits for an outcome from outside is left as it is then. -/
theorem names_isolated (listening : Bool)
    (before : List (Floor.Use β (Except (Fault OperationError) β))) (name : String)
    (steps : List (SerialStep β)) :
    let f : Floor β (Except (Fault OperationError) β) :=
      .ofWorld ((Floor.ofWorld (.start listening)).uses before).world
    let own := steps.filter (·.concerns name)
    let g := f.uses (steps.map SerialStep.use)
    let g' := f.uses (own.map SerialStep.use)
    reports name f own = reports name f steps ∧
      g'.world.breaker? (breakerKey name) = g.world.breaker? (breakerKey name) ∧
      g'.world.bulkhead? (bulkheadKey name) = g.world.bulkhead? (bulkheadKey name) := by
  have hnamed := Floor.named_of_start listening before
  obtain ⟨hreports, hend⟩ := reports_filter (.refl name _) hnamed hnamed steps
  exact ⟨hreports.symm, hend.breaker.symm, hend.bulkhead.symm⟩

/-- Calls under a longer name open the breaker of that name. -/
example :
    let options := { Options.none with breaker := some ⟨1, .ofSeconds 10, 1⟩ }
    let up : Script Nat := .repeating (.timed (.ofMillis 5) (.value 1))
    let down : Script Nat := .repeating (.timed .zero (.error ⟨"down"⟩))
    let steps : List (SerialStep Nat) :=
      [.call "api" options up, .call "apiBulkhead" options down, .call "apiBulkhead" options up,
        .sleep (.ofMillis 3), .reset "apiBulkheadCircuitBreaker", .call "api" options up]
    let f : Floor Nat (Except (Fault OperationError) Nat) := .ofWorld (.start true)
    (reports "api" f steps).map (fun r => (r.ending, r.starts)) =
        List.replicate 2 (some (.returned (.ok 1)), [0]) ∧
      (reports "apiBulkhead" f steps).map (·.ending) =
        [some (.returned (.error (.operation ⟨"down"⟩))),
          some (.returned (.error (.circuitOpen "apiBulkheadCircuitBreaker")))] := by
  decide +kernel

end Orchestrator

end Safeguard
