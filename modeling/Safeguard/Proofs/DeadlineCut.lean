import Safeguard.Proofs.ActivityAgreement

/-!
# A run under a deadline

The run of an activity under a deadline is read off the run it has alone. If that run is over when
the deadline comes, nothing changes. If it is not, its steps up to the deadline are taken and no
others (`upTo`), and the activity is dropped at the deadline. The derivation of the run alone is
followed wait by wait, and the time that is left is what changes from one wait to the next.

## Key results

- `Activity.runs`: every activity has a run
- `Runs.now_le`, `Runs.within`: time in a run
- `Runs.deadline`: a run that is over in time
- `Runs.deadline_cut`: a run that is not
- `Deadline.runs_guard`, `Deadline.runs_guard_cut`: the layer in `cancel` mode
-/

namespace Safeguard

/-! ## Up to a time -/

/-- What of a list with times comes no later than `due`. -/
def upTo {α : Type} (due : Nat) (l : List (Nat × α)) : List (Nat × α) := l.filter (·.1 ≤ due)

section UpTo

variable {α : Type} {due : Nat} {l : List (Nat × α)}

/-- Nothing is left of what comes too late. -/
private theorem upTo_eq_nil (h : ∀ p ∈ l, due < p.1) : upTo due l = [] := by
  apply List.filter_eq_nil_iff.2
  simpa using h

/-- What comes in time stays. -/
private theorem upTo_cons_of_le {p : Nat × α} (h : p.1 ≤ due) :
    upTo due (p :: l) = p :: upTo due l :=
  List.filter_cons_of_pos (by simpa using h)

/-- What comes too late is left out. -/
private theorem upTo_cons_of_gt {p : Nat × α} (h : due < p.1) : upTo due (p :: l) = upTo due l :=
  List.filter_cons_of_neg (by simpa using h)

/-- What is seen up to a time is what is seen of the effects up to then. -/
theorem sights_upTo (due : Nat) (t : List (Nat × Effect)) :
    sights (upTo due t) = upTo due (sights t) := by
  induction t with
  | nil => rfl
  | cons p t ih =>
    obtain ⟨now, e⟩ := p
    -- An effect stays or goes with what is seen of it.
    by_cases hle : now ≤ due
    · rw [upTo_cons_of_le (by exact hle)]
      cases hsight : e.sight with
      | none => simpa [sights, hsight] using ih
      | some sight =>
        simp only [sights, List.filterMap_cons, hsight, Option.map_some] at ih ⊢
        rw [ih, upTo_cons_of_le (by exact hle)]
    · rw [upTo_cons_of_gt (by exact Nat.lt_of_not_le hle), ih]
      cases hsight : e.sight with
      | none => simp [sights, hsight]
      | some sight => simp [sights, hsight, upTo, hle]

/-- The attempts that are seen up to a time are those that began by then. -/
theorem attemptTimes_upTo (due : Nat) (l : List (Nat × Sight)) :
    attemptTimes (upTo due l) = (attemptTimes l).filter (· ≤ due) := by
  induction l with
  | nil => rfl
  | cons p l ih =>
    obtain ⟨now, attempt | signal⟩ := p <;> by_cases hle : now ≤ due <;>
      simp_all [upTo, attemptTimes]

end UpTo

namespace Activity

variable {β α : Type}

/-- Left to itself, an activity goes on to its end or waits for good. -/
theorem exists_runs (x : Activity β α) (s : Scene) : ∃ t r s', x.Runs s t r s' := by
  -- Induction on the activity, from any scene on.
  induction x generalizing s with
  | ended ending => exact ⟨_, _, _, .ended ending s⟩
  | act e next ih =>
    obtain ⟨t, r, s', h⟩ := ih (s.perform e).1 (s.perform e).2
    exact ⟨_, r, s', .act h⟩
  | wait w next ih =>
    rcases Option.eq_none_or_eq_some w.limit with hnone | ⟨ms, hms⟩
    · exact ⟨_, _, _, .stuck s hnone⟩
    · obtain ⟨t, r, s', h⟩ := ih (.elapsed ms hms) { s with world := s.world.after ms }
      exact ⟨t, r, s', .elapsed hms h⟩

/-- Every activity has a run. -/
theorem runs (x : Activity β α) (s : Scene) :
    x.Runs s (x.trace s) (x.run s).1 (x.run s).2 := by
  obtain ⟨t, r, s', h⟩ := x.exists_runs s
  rw [h.trace_eq, h.run_eq]
  exact h

namespace Runs

variable {R : α → Prop} {x : Activity β α} {s s' : Scene} {t : List (Nat × Effect)}
  {r : Option (Ending α)} {budget : Nat}

/-! ## Time in a run -/

/-- Time does not go back. -/
theorem now_le (h : x.Runs s t r s') : s.world.now ≤ s'.world.now := by
  induction h with
  | ended | stuck => exact Nat.le_refl _
  | act _ ih => rwa [Scene.now_perform] at ih
  | elapsed _ _ ih => exact Nat.le_trans (Nat.le_add_right _ _) ih

/-- Everything a run does comes between its beginning and its end. -/
theorem within (h : x.Runs s t r s') : ∀ p ∈ t, s.world.now ≤ p.1 ∧ p.1 ≤ s'.world.now := by
  induction h with
  | ended | stuck => simp
  | act hrest ih =>
    -- An effect takes no time, and all that follows comes later.
    have hle := hrest.now_le
    rw [Scene.now_perform] at hle ih
    intro p hp
    rcases List.mem_cons.1 hp with rfl | hp
    · exact ⟨Nat.le_refl _, hle⟩
    · exact ih p hp
  | elapsed _ _ ih =>
    intro p hp
    exact ⟨Nat.le_trans (Nat.le_add_right _ _) (ih p hp).1, (ih p hp).2⟩

/-! ## The deadline -/

/-- A run that is over when the deadline comes, at that very millisecond included, is not changed by
it. -/
theorem deadline {ending : Ending α} (h : x.Runs s t (some ending) s')
    (hin : s'.world.now ≤ s.world.now + budget) :
    (x.deadline budget).Runs s t (some (ending.map some)) s' := by
  generalize hr : some ending = r at h
  induction h generalizing budget with
  | ended =>
    cases hr
    exact .ended _ _
  | @act e next s s' t r _ ih =>
    rw [← s.now_perform e] at hin
    exact .act (ih hin hr)
  | stuck => cases hr
  | @elapsed w next s s' ms t r hms hrest ih =>
    -- The wait ends within the time that is left, and less is left after it.
    have hpos : 0 < ms := w.limit_pos ms hms
    have hnow : s.world.now + ms ≤ s'.world.now := hrest.now_le
    have hends : w.endsWithin budget = true := by simpa [Wait.endsWithin, hms] using by omega
    rw [Activity.deadline, dif_neg (by omega), if_pos hends]
    refine .elapsed hms (ih ?_ hr)
    show s'.world.now ≤ s.world.now + ms + (budget - ms)
    omega

/-- A wait that lasts longer than the time that is left is where the activity is dropped. -/
theorem deadline_wait {w : Wait} {next : Wake β w.limit w.gated → Activity β α}
    (hleaves : w.leaves = []) (hlong : ∀ ms, w.limit = some ms → budget < ms) (s : Scene) :
    ∃ s'', ((Activity.wait w next).deadline budget).Runs s [] (some (.returned none)) s'' ∧
      s''.world.now = s.world.now + budget := by
  -- Nothing is given back by an activity that holds nothing.
  have dropped (s : Scene) : (Activity.leaving w.leaves (.pure none) : Activity β (Option α)).Runs
      s [] (some (.returned none)) s := by
    rw [hleaves]
    exact .ended _ _
  have hends : w.endsWithin budget = false := by
    cases hlimit : w.limit with
    | none => simp [Wait.endsWithin, hlimit]
    | some ms => simpa [Wait.endsWithin, hlimit] using hlong ms hlimit
  by_cases hzero : budget = 0
  · subst hzero
    rw [Activity.deadline, dif_pos rfl]
    exact ⟨s, dropped s, rfl⟩
  · rw [Activity.deadline, dif_neg hzero, if_neg (by simp [hends])]
    exact ⟨_, .elapsed rfl (dropped _), rfl⟩

/-- A run that is not over when the deadline comes, because it ends later or never, takes its steps
up to then and is dropped. -/
theorem deadline_cut (h : x.Runs s t r s') (hx : x.Meets Effect.Plain R)
    (hlate : r.isSome → s.world.now + budget < s'.world.now) :
    ∃ s'', (x.deadline budget).Runs s (upTo (s.world.now + budget) t) (some (.returned none)) s'' ∧
      s''.world.now = s.world.now + budget := by
  induction h generalizing budget with
  | ended ending s => exact absurd (hlate rfl) (by omega)
  | @act e next s s' t r _ ih =>
    cases hx with
    | act _ hnext =>
      have hsame : (s.perform e).2.world.now = s.world.now := s.now_perform e
      rw [hsame] at ih
      obtain ⟨s'', hruns, hnow⟩ := ih (hnext _) hlate
      rw [upTo_cons_of_le (by exact Nat.le_add_right _ _)]
      exact ⟨s'', .act hruns, hnow⟩
  | @stuck w next s hnone =>
    cases hx with
    | wait hleaves _ =>
      exact deadline_wait (List.eq_nil_iff_forall_not_mem.2 hleaves) (by simp [hnone]) s
  | @elapsed w next s s' ms t r hms hrest ih =>
    cases hx with
    | wait hleaves hnext =>
      by_cases hends : ms ≤ budget
      · -- The wait ends in time, and the rest has what is left.
        have hpos : 0 < ms := w.limit_pos ms hms
        have hdue : (s.world.after ms).now + (budget - ms) = s.world.now + budget := by
          show s.world.now + ms + (budget - ms) = _
          omega
        obtain ⟨s'', hruns, hnow⟩ := ih (hnext _) (hdue ▸ hlate)
        rw [hdue] at hruns hnow
        rw [Activity.deadline, dif_neg (by omega), if_pos (by simpa [Wait.endsWithin, hms])]
        exact ⟨s'', .elapsed hms hruns, hnow⟩
      · -- The wait is cut off, and everything after it is too late.
        have hnil : upTo (s.world.now + budget) t = [] := upTo_eq_nil fun p hp => by
          have hle : s.world.now + ms ≤ p.1 := (hrest.within p hp).1
          omega
        rw [hnil]
        refine deadline_wait (List.eq_nil_iff_forall_not_mem.2 hleaves) (fun ms' hms' => ?_) s
        obtain rfl : ms = ms' := Option.some.inj (hms.symm.trans hms')
        omega

end Runs

end Activity

/-! ## The layer -/

namespace Deadline

variable {β γ ε : Type} (name : String) (limit : Duration) {R : Except ε γ → Prop}
  {operation : Activity β (Except ε γ)} {s s' : Scene} {t : List (Nat × Effect)}
  {r : Option (Ending (Except ε γ))}

/-- What the layer makes of how the operation ends. -/
def wrapped (ending : Ending (Except ε γ)) : Ending (Except (Fault ε) γ) :=
  ending.map fun result => result.mapError Fault.operation

/-- An operation that is over when its deadline comes. -/
theorem runs_guard {ending : Ending (Except ε γ)} (h : operation.Runs s t (some ending) s')
    (hin : s'.world.now ≤ s.world.now + limit.ceilMillis) :
    (guard ⟨name, ⟨limit, .cancel⟩⟩ operation).Runs s t (some (wrapped ending)) s' := by
  have hcut := h.deadline hin
  cases ending with
  | returned result =>
    rw [← List.append_nil t]
    exact hcut.bind (.ended _ _)
  | panicked message => exact hcut.bind_panicked

/-- An operation that is not. -/
theorem runs_guard_cut (h : operation.Runs s t r s') (hop : operation.Meets Effect.Plain R)
    (hlate : r.isSome → s.world.now + limit.ceilMillis < s'.world.now) :
    ∃ s'' : Scene, (guard ⟨name, ⟨limit, .cancel⟩⟩ operation).Runs s
      (upTo (s.world.now + limit.ceilMillis) t ++
        (expiry ⟨name, ⟨limit, .cancel⟩⟩).map fun notice =>
          (s.world.now + limit.ceilMillis, .tell notice))
      (some (.returned (.error (.timedOut limit)))) s'' ∧
      s''.world.now = s.world.now + limit.ceilMillis := by
  obtain ⟨cut, hcut, hnow⟩ := h.deadline_cut hop hlate
  rw [← hnow] at hcut ⊢
  -- The layer tells of the deadline, and fails the call.
  have htell := Activity.Runs.telling (β := β) (s := cut) (expiry ⟨name, ⟨limit, .cancel⟩⟩)
    (.ended (.returned (.error (.timedOut limit) : Except (Fault ε) γ)) _)
  rw [List.append_nil] at htell
  exact ⟨_, hcut.bind htell, rfl⟩

end Deadline

end Safeguard
