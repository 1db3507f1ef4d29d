import Safeguard.Proofs.ActivityRun

/-!
# The steps of an activity

`Activity.steps` lists the effects of a run that nothing else shares the world with, each with the
scene right before it, so that a step can be asked what it was answered and what it changed.
`Activity.Walks` follows a run that ends through the combinators, with its steps, its ending and the
scene it leaves.

## Key results

- `steps_bind`: the steps of an activity inside another one
- `Walks.bind`, `Walks.telling`, `Walks.sleep`: the combinators
- `starts_eq_invocations`: the record of a call counts the steps that begin an attempt
-/

namespace Safeguard

/-- Whether an effect begins an attempt of the operation. -/
def Effect.invokes : Effect → Bool
  | invoke => true
  | _ => false

/-- Whether an effect asks breaker `i` for admission. -/
def Effect.asks (i : Nat) : Effect → Bool
  | acquire j => j == i
  | _ => false

/-- Only asking for admission counts as asking. -/
theorem Effect.asks_iff {i : Nat} {e : Effect} : e.asks i = true ↔ e = .acquire i := by
  cases e <;> simp [asks]

/-- How many of the steps begin an attempt of the operation. -/
def invocations (l : List (Scene × Effect)) : Nat := l.countP (·.2.invokes)

/-- How many of the steps ask breaker `i` for admission. -/
def admissionsAsked (i : Nat) (l : List (Scene × Effect)) : Nat := l.countP (·.2.asks i)

/-- The attempts of two rows of steps. -/
@[simp] theorem invocations_append (l l' : List (Scene × Effect)) :
    invocations (l ++ l') = invocations l + invocations l' :=
  List.countP_append

/-- The admissions asked for in two rows of steps. -/
@[simp] theorem admissionsAsked_append (i : Nat) (l l' : List (Scene × Effect)) :
    admissionsAsked i (l ++ l') = admissionsAsked i l + admissionsAsked i l' :=
  List.countP_append

/-- A step that asks breaker `i` counts as such. -/
theorem admissionsAsked_acquire (i : Nat) (s : Scene) (l : List (Scene × Effect)) :
    admissionsAsked i ((s, .acquire i) :: l) = admissionsAsked i l + 1 := by
  simp [admissionsAsked, Effect.asks]

/-- To ask for admission is not to begin an attempt. -/
theorem invocations_acquire (i : Nat) (s : Scene) (l : List (Scene × Effect)) :
    invocations ((s, .acquire i) :: l) = invocations l := by
  simp [invocations, Effect.invokes]

namespace Activity

variable {β α γ : Type}

/-- The effects of a run that nothing else shares the world with, each with the scene right before
it. -/
def steps : Activity β α → Scene → List (Scene × Effect)
  | .ended _, _ => []
  | .act e next, s => (s, e) :: (next (s.perform e).1).steps (s.perform e).2
  | .wait w next, s =>
    match h : w.limit with
    | some ms => (next (.elapsed ms h)).steps { s with world := s.world.after ms }
    | none => []

/-- A wait with an end takes no step. -/
private theorem steps_wait {w : Wait} {ms : Nat} (h : w.limit = some ms)
    (next : Wake β w.limit w.gated → Activity β α) (s : Scene) :
    (Activity.wait w next).steps s =
      (next (.elapsed ms h)).steps { s with world := s.world.after ms } := by
  rw [steps]
  split
  · next ms' h' =>
    obtain rfl : ms = ms' := Option.some.inj (h.symm.trans h')
    rfl
  · next h' => simp [h] at h'

/-- A wait for something outside is followed by no step. -/
private theorem steps_stuck {w : Wait} (h : w.limit = none)
    (next : Wake β w.limit w.gated → Activity β α) (s : Scene) :
    (Activity.wait w next).steps s = [] := by
  rw [steps]
  split
  · next ms h' => simp [h] at h'
  · rfl

/-- The steps and the trace are the same effects. -/
private theorem map_steps (x : Activity β α) (s : Scene) :
    (x.steps s).map (fun p => (p.1.world.now, p.2)) = x.trace s := by
  induction x generalizing s with
  | ended ending => rfl
  | act e next ih => exact congrArg _ (ih _ _)
  | wait w next ih =>
    rcases Option.eq_none_or_eq_some w.limit with h | ⟨ms, h⟩
    · rw [steps_stuck h, (Runs.stuck s h).trace_eq]
      rfl
    -- The trace finds the end of the wait again by a match of its own.
    · rw [steps_wait h, ih, trace]
      split
      · next ms' h' =>
        obtain rfl : ms = ms' := Option.some.inj (h.symm.trans h')
        rfl
      · next h' => simp [h] at h'

/-- The steps that follow an activity that has stopped. -/
def stepsAfter (k : α → Activity β γ) : Option (Ending α) × Scene → List (Scene × Effect)
  | (some (.returned a), s) => (k a).steps s
  | (some (.panicked _), _) => []
  | (none, _) => []

/-- What follows an activity takes its steps where the activity has stopped. -/
theorem steps_bind (k : α → Activity β γ) (x : Activity β α) (s : Scene) :
    (x.bind k).steps s = x.steps s ++ stepsAfter k (x.run s) := by
  -- By induction on the tree, as for the run: each step stands in front of what follows.
  induction x generalizing s with
  | ended ending => cases ending <;> rfl
  | act e next ih => exact congrArg _ (ih _ _)
  | wait w next ih =>
    rcases Option.eq_none_or_eq_some w.limit with h | ⟨ms, h⟩
    · rw [Activity.bind, steps_stuck h, steps_stuck h, run_stuck h]
      rfl
    · rw [Activity.bind, steps_wait h, steps_wait h, run_wait h]
      exact ih _ _

/-- The activity `x`, run from the scene `s`, takes the steps `l`, ends so and leaves the scene
`s'`. -/
structure Walks (x : Activity β α) (s : Scene) (l : List (Scene × Effect)) (ending : Ending α)
    (s' : Scene) : Prop where
  steps_eq : x.steps s = l
  run_eq : x.run s = (some ending, s')

namespace Walks

variable {x : Activity β α} {s s' s'' : Scene} {l l' : List (Scene × Effect)} {ending : Ending α}

/-- An activity that has ended takes no step. -/
theorem ended (ending : Ending α) (s : Scene) :
    (.ended ending : Activity β α).Walks s [] ending s :=
  ⟨rfl, rfl⟩

/-- An effect is one step. -/
theorem act {e : Effect} {next : e.Answer → Activity β α}
    (h : (next (s.perform e).1).Walks (s.perform e).2 l ending s') :
    (Activity.act e next).Walks s ((s, e) :: l) ending s' :=
  ⟨congrArg _ h.steps_eq, h.run_eq⟩

/-- An effect with its answer known. -/
theorem answered {e : Effect} {next : e.Answer → Activity β α} {a : e.Answer}
    (he : (s.perform e).1 = a) (h : (next a).Walks (s.perform e).2 l ending s') :
    (Activity.act e next).Walks s ((s, e) :: l) ending s' := by
  subst he
  exact .act h

/-- What follows an activity that returned goes on where it stopped. -/
theorem bind {k : α → Activity β γ} {a : α} {ending : Ending γ}
    (hx : x.Walks s l (.returned a) s') (hk : (k a).Walks s' l' ending s'') :
    (x.bind k).Walks s (l ++ l') ending s'' := by
  constructor
  · rw [steps_bind, hx.steps_eq, hx.run_eq, stepsAfter, hk.steps_eq]
  · rw [run_bind, hx.run_eq, resume, hk.run_eq]

/-- Nothing follows an activity that panicked. -/
theorem bind_panicked {k : α → Activity β γ} {message : String}
    (hx : x.Walks s l (.panicked message) s') : (x.bind k).Walks s l (.panicked message) s' := by
  constructor
  · rw [steps_bind, hx.steps_eq, hx.run_eq, stepsAfter, List.append_nil]
  · rw [run_bind, hx.run_eq, resume]

/-- A sleep lets its time pass and takes no step. -/
theorem sleep (running : Bool) (ms : Nat) (s : Scene) :
    (Activity.sleep running ms : Activity β Unit).Walks s [] (.returned ())
      { s with world := s.world.after ms } := by
  have hruns := Runs.sleep (β := β) running ms s
  refine ⟨?_, hruns.run_eq⟩
  rw [← List.map_eq_nil_iff, map_steps, hruns.trace_eq]

end Walks

/-- The record of a call counts the steps that begin an attempt. -/
theorem starts_eq_invocations (x : Activity β α) (s : Scene) :
    (x.run s).2.record.starts.size = s.record.starts.size + invocations (x.steps s) := by
  induction x generalizing s with
  | ended ending => rfl
  | act e next ih =>
    have hrest := ih (s.perform e).1 (s.perform e).2
    -- One step adds to the record exactly if it begins an attempt.
    have hstep : (s.perform e).2.record.starts.size = s.record.starts.size + invocations [(s, e)] :=
      by cases e <;> simp [Scene.perform, invocations, Effect.invokes]
    rw [hstep, Nat.add_assoc, ← invocations_append] at hrest
    exact hrest
  | wait w next ih =>
    rcases Option.eq_none_or_eq_some w.limit with h | ⟨ms, h⟩
    · rw [run_stuck h, steps_stuck h]
      rfl
    · rw [run_wait h, steps_wait h]
      exact ih _ _

end Activity

end Safeguard
