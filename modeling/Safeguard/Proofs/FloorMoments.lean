import Safeguard.Proofs.FloorInvariant

/-!
# The moments of a step

A step of a history is one move, except that timers go off one after another while time passes. The
moments of a step are the floors it goes through, the last of which is the floor after it. Between
two moments a single call goes on, from one wait to the next or to its end, and all the others wait.

## Key results

- `getLast?_moments`: the last moment is the floor after the step
- `KeptInTime.passing`: what time keeps holds at every moment while it passes
-/

namespace Safeguard.Floor

variable {β ρ : Type}

/-- The floors that time goes through until `t`: one after each timer that goes off, and the one at
time `t`. -/
def passing (t : Nat) (f : Floor β ρ) : List (Floor β ρ) :=
  match _h : Job.takeDue t f.jobs with
  | none => [f.atTime t]
  | some (j, others) =>
    let g := { f with jobs := others }.fire j
    g :: passing t g
termination_by Job.slacks t f.jobs
decreasing_by
  obtain ⟨⟨d, hd, hle⟩, hsum⟩ := Job.takeDue_spec _h
  have := slacks_fire { f with jobs := others } hd hle
  dsimp only at this
  omega

/-- The floors that a step goes through. -/
def moments (f : Floor β ρ) : Step β ρ → List (Floor β ρ)
  | .sleep d => f.passing (f.world.now + d.sleepMillis)
  | s => [(f.step s).2]

variable {f : Floor β ρ}

/-- Time passes until the timers have gone off. -/
private theorem getLast?_passing (t : Nat) (f : Floor β ρ) :
    (f.passing t).getLast? = some (f.runUntil t) := by
  -- By the recursion of the moments, which is that of the timers.
  fun_induction passing t f with
  | case1 f hnone =>
    rw [runUntil]
    split
    · rfl
    · next heq => simp [hnone] at heq
  | case2 f j others hdue g ih =>
    have hlast : (f.runUntil t) = g.runUntil t := by
      rw [runUntil]
      split
      · next heq => simp [hdue] at heq
      · next j' others' heq =>
        obtain ⟨rfl, rfl⟩ : j = j' ∧ others = others' := by simpa [hdue] using heq
        rfl
    rw [List.getLast?_cons, ih, Option.getD_some, hlast]

/-- The last moment of a step is the floor after it. -/
theorem getLast?_moments (f : Floor β ρ) (s : Step β ρ) :
    (f.moments s).getLast? = some (f.step s).2 := by
  cases s with
  | sleep d => exact getLast?_passing _ f
  | _ => rfl

/-- The floor after a step is one of its moments. -/
theorem step_mem_moments (f : Floor β ρ) (s : Step β ρ) : (f.step s).2 ∈ f.moments s :=
  List.mem_of_getLast? (getLast?_moments f s)

/-- What time keeps holds at every moment while it passes. -/
theorem KeptInTime.passing {P : Floor β ρ → Prop} (hP : KeptInTime P) (t : Nat) (h : P f) :
    ∀ g ∈ f.passing t, P g := by
  fun_induction Floor.passing t f with
  | case1 f _ =>
    intro g hg
    rw [List.mem_singleton.1 hg]
    exact hP.atTime f t h
  | case2 f j others hdue g ih =>
    have hfired : P g := hP.fire h hdue
    intro g' hg'
    -- The moments are the one of the first firing and those of the rest of the time.
    rcases List.mem_cons.1 hg' with rfl | hg'
    · exact hfired
    · exact ih hfired g' hg'

/-- A step goes through floors that time keeps, if it lets time pass, and otherwise comes at once to
the floor after it. -/
theorem forall_mem_moments {P : Floor β ρ → Prop} (hP : KeptInTime P) (s : Step β ρ)
    (hsleep : ∀ d, s = .sleep d → P f) (hstep : P (f.step s).2) : ∀ g ∈ f.moments s, P g := by
  cases s with
  | sleep d => exact hP.passing _ (hsleep d rfl)
  | _ =>
    intro g hg
    rw [List.mem_singleton.1 hg]
    exact hstep

end Safeguard.Floor
