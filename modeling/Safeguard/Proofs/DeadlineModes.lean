import Safeguard.Proofs.DeadlineCut

/-!
# The two modes of a deadline

A deadline in `cancel` mode races the operation against a timer, and one in `advisory` mode looks at
the clock before and after. Both come to the same verdict on an operation that is left alone by the
layers: it is in time up to and including the millisecond in which the span of the deadline is
over. The timer counts whole milliseconds, so the two may differ within the last one when the span
ends inside it.

## Key results

- `Activity.EndsAfter`, `Activity.RunsPast`: when an operation ends if it is left alone
- `Deadline.runs_advisory`: the layer in `advisory` mode
- `cancel_agrees_with_advisory`: both modes, and where they agree
-/

namespace Safeguard

/-! ## When an activity ends -/

namespace Activity

variable {β α γ ε : Type}

/-- Left alone from the scene `s`, the activity ends so, `millis` milliseconds later. -/
def EndsAfter (x : Activity β α) (s : Scene) (millis : Nat) (ending : Ending α) : Prop :=
  ∃ s', x.run s = (some ending, s') ∧ s'.world.now = s.world.now + millis

/-- Left alone from the scene `s`, the activity has not ended `millis` milliseconds later. It may
end after that, or never. -/
def RunsPast (x : Activity β α) (s : Scene) (millis : Nat) : Prop :=
  ∀ ms ending, x.EndsAfter s ms ending → millis < ms

/-- Left alone from the scene `s`, the activity fails because of the deadline `limit`. -/
def TimesOut (x : Activity β (Except (Fault ε) γ)) (s : Scene) (limit : Duration) : Prop :=
  ∃ millis, x.EndsAfter s millis (.returned (.error (.timedOut limit)))

variable {x : Activity β α} {s s' : Scene} {t : List (Nat × Effect)} {millis : Nat}
  {ending : Ending α}

/-- When and how an activity ends is what running it shows. -/
private theorem endsAfter_iff : x.EndsAfter s millis ending ↔
    (x.run s).1 = some ending ∧ (x.run s).2.world.now = s.world.now + millis := by
  constructor
  · rintro ⟨s', hrun, hnow⟩
    rw [hrun]
    exact ⟨rfl, hnow⟩
  · rintro ⟨hending, hnow⟩
    exact ⟨(x.run s).2, Prod.ext hending rfl, hnow⟩

instance [DecidableEq α] : Decidable (x.EndsAfter s millis ending) :=
  decidable_of_iff _ endsAfter_iff.symm

/-- A run shows when the activity ends. -/
private theorem Runs.endsAfter (h : x.Runs s t (some ending) s')
    (hnow : s'.world.now = s.world.now + millis) : x.EndsAfter s millis ending :=
  ⟨s', h.run_eq, hnow⟩

/-- An activity that ends has a run that is over. -/
theorem EndsAfter.runs (h : x.EndsAfter s millis ending) :
    ∃ s', x.Runs s (x.trace s) (some ending) s' ∧ s'.world.now = s.world.now + millis := by
  obtain ⟨s', hrun, hnow⟩ := h
  have hruns := x.runs s
  rw [hrun] at hruns
  exact ⟨s', hruns, hnow⟩

/-- An activity ends at one time and in one way. -/
theorem EndsAfter.unique {ms : Nat} {other : Ending α} (h : x.EndsAfter s millis ending)
    (h' : x.EndsAfter s ms other) : millis = ms ∧ ending = other := by
  obtain ⟨s', hrun, hnow⟩ := h
  obtain ⟨s'', hrun', hnow'⟩ := h'
  rw [hrun] at hrun'
  cases hrun'
  exact ⟨by omega, rfl⟩

/-- An activity that ends later than `ms` has not ended by then. -/
private theorem EndsAfter.runsPast {ms : Nat} (h : x.EndsAfter s millis ending)
    (hlt : ms < millis) :
    x.RunsPast s ms := by
  intro ms' other h'
  obtain ⟨rfl, -⟩ := h.unique h'
  exact hlt

/-- The run of an activity that has not ended by a time is over later than that, if it ever is. -/
theorem RunsPast.late {r : Option (Ending α)} (h : x.RunsPast s millis) (hruns : x.Runs s t r s') :
    r.isSome → s.world.now + millis < s'.world.now := by
  intro hr
  obtain ⟨ending, rfl⟩ := Option.isSome_iff_exists.1 hr
  have hle := hruns.now_le
  have hlt := h (s'.world.now - s.world.now) ending (hruns.endsAfter (by omega))
  omega

end Activity

namespace Deadline

open Activity (Runs)

variable {β γ ε : Type} (name : String) (limit : Duration) {operation : Activity β (Except ε γ)}
  {s s' : Scene} {t : List (Nat × Effect)} {millis : Nat}

/-! ## The layer in `advisory` mode -/

/-- What is seen of a measured time: it is reported if it is longer than the deadline. -/
def measured (name : String) (limit : Duration) (now millis : Nat) : List (Nat × Sight) :=
  if limit.nanos < millis * 10 ^ 6 then
    [(now, .signal (.operationDuration name (millisWord millis)))]
  else []

/-- What the layer says of a measured time is seen if the time is too long. -/
private theorem sights_overrun (now millis : Nat) :
    sights ((overrun ⟨name, ⟨limit, .advisory⟩⟩ millis).map fun notice => (now, .tell notice)) =
      measured name limit now millis := by
  unfold overrun measured
  split <;> rfl

/-- What follows an operation that returned: the second look at the clock, and the report. -/
def measuring (d : Deadline) (began : Nat) (result : Except ε γ) :
    Activity β (Except (Fault ε) γ) :=
  .act .clock fun (now : Nat) =>
    .telling (d.overrun (now - began)) (.pure (result.mapError .operation))

/-- The layer looks at the clock, and measures when the operation returns. -/
private theorem guard_advisory : guard ⟨name, ⟨limit, .advisory⟩⟩ operation =
    .act .clock fun (began : Nat) => operation.bind (measuring ⟨name, ⟨limit, .advisory⟩⟩ began) :=
  rfl

/-- The second look at the clock takes no time. -/
private theorem runs_measuring (d : Deadline) (began : Nat) (result : Except ε γ) (s : Scene) :
    (measuring d began result : Activity β _).Runs s
      ((s.world.now, .clock) :: ((d.overrun (s.world.now - began)).map fun notice =>
        (s.world.now, .tell notice)))
      (some (wrapped (.returned result)))
      { s with world := s.world.tell (d.overrun (s.world.now - began)) } := by
  have htell := Runs.telling (β := β) (s := s) (d.overrun (s.world.now - began))
    (.ended (wrapped (.returned result)) _)
  rw [List.append_nil] at htell
  exact .act htell

/-- An operation that returns is measured and returns the same. -/
theorem runs_advisory {result : Except ε γ}
    (h : operation.Runs s t (some (.returned result)) s') :
    ∃ (t' : List (Nat × Effect)) (s'' : Scene),
      (guard ⟨name, ⟨limit, .advisory⟩⟩ operation).Runs s t'
        (some (wrapped (.returned result))) s'' ∧
      s''.world.now = s'.world.now ∧
      sights t' = sights t ++
        measured name limit s'.world.now (s'.world.now - s.world.now) := by
  -- The operation runs between the two looks.
  rw [guard_advisory]
  refine ⟨_, _, .act (h.bind (runs_measuring _ s.world.now result s')), World.now_tell _ _, ?_⟩
  -- Neither look at the clock is seen.
  rw [← sights_overrun, ← sights_append]
  simp [sights, Effect.sight]

/-- A panic goes through unmeasured. -/
private theorem runs_advisory_panicked {message : String}
    (h : operation.Runs s t (some (.panicked message)) s') :
    (guard ⟨name, ⟨limit, .advisory⟩⟩ operation).Runs s ((s.world.now, .clock) :: t)
      (some (.panicked message)) s' :=
  .act h.bind_panicked

/-- A span of whole milliseconds is that many milliseconds to a timer. -/
private theorem nanos_eq_of_dvd (hwhole : 10 ^ 6 ∣ limit.nanos) :
    limit.nanos = limit.ceilMillis * 10 ^ 6 := by
  obtain ⟨millis, hmillis⟩ := hwhole
  rw [Duration.ceilMillis]
  omega

/-- A time below the range of a word is reported as it is. -/
private theorem toNat_millisWord (h : millis < 2 ^ 64) : (millisWord millis).toNat = millis := by
  rw [millisWord, UInt64.toNat_ofNat']
  omega

/-! ## Both modes -/

/-- An operation that ends in time does so under `cancel` as it does alone. -/
private theorem endsAfter_cancel {ending : Ending (Except ε γ)}
    (h : operation.EndsAfter s millis ending) (hin : millis ≤ limit.ceilMillis) :
    (guard ⟨name, ⟨limit, .cancel⟩⟩ operation).EndsAfter s millis (wrapped ending) ∧
      (guard ⟨name, ⟨limit, .cancel⟩⟩ operation).trace s = operation.trace s := by
  obtain ⟨s', hruns, hnow⟩ := h.runs
  have hguard := runs_guard name limit hruns (by omega)
  exact ⟨hguard.endsAfter hnow, hguard.trace_eq⟩

/-- An operation that does not end in time is dropped at the deadline. -/
private theorem endsAfter_cancel_cut {R : Except ε γ → Prop} (hop : operation.Meets Effect.Plain R)
    (h : operation.RunsPast s limit.ceilMillis) :
    (guard ⟨name, ⟨limit, .cancel⟩⟩ operation).EndsAfter s limit.ceilMillis
        (.returned (.error (.timedOut limit))) ∧
      (guard ⟨name, ⟨limit, .cancel⟩⟩ operation).trace s =
        upTo (s.world.now + limit.ceilMillis) (operation.trace s) ++
          (expiry ⟨name, ⟨limit, .cancel⟩⟩).map fun notice =>
            (s.world.now + limit.ceilMillis, .tell notice) := by
  have hruns := operation.runs s
  obtain ⟨s'', hguard, hnow⟩ := runs_guard_cut name limit hruns hop (h.late hruns)
  exact ⟨hguard.endsAfter hnow, hguard.trace_eq⟩

/-- Every operation that ends does so under `advisory` as it does alone. -/
private theorem endsAfter_advisory {ending : Ending (Except ε γ)}
    (h : operation.EndsAfter s millis ending) :
    (guard ⟨name, ⟨limit, .advisory⟩⟩ operation).EndsAfter s millis (wrapped ending) := by
  obtain ⟨s', hruns, hnow⟩ := h.runs
  cases ending with
  | returned result =>
    obtain ⟨t', s'', hguard, hsame, -⟩ := runs_advisory name limit hruns
    exact hguard.endsAfter (hsame.trans hnow)
  | panicked message =>
    exact (runs_advisory_panicked name limit hruns).endsAfter hnow

/-- All that is seen under `advisory` is the operation itself and the report on its time. -/
private theorem sights_advisory {result : Except ε γ}
    (h : operation.EndsAfter s millis (.returned result)) :
    sights ((guard ⟨name, ⟨limit, .advisory⟩⟩ operation).trace s) =
      sights (operation.trace s) ++ measured name limit (s.world.now + millis) millis := by
  obtain ⟨s', hruns, hnow⟩ := h.runs
  obtain ⟨t', s'', hguard, -, hsights⟩ := runs_advisory name limit hruns
  rw [hguard.trace_eq, hsights, hnow, Nat.add_sub_cancel_left]

/-- A panic is seen without a report. -/
private theorem sights_advisory_panicked {message : String}
    (h : operation.EndsAfter s millis (.panicked message)) :
    sights ((guard ⟨name, ⟨limit, .advisory⟩⟩ operation).trace s) =
      sights (operation.trace s) := by
  obtain ⟨s', hruns, -⟩ := h.runs
  rw [(runs_advisory_panicked name limit hruns).trace_eq]
  rfl

/-- `cancel` fails the operations that take longer than the timer, and no others. -/
private theorem timesOut_iff {R : Except ε γ → Prop} (hop : operation.Meets Effect.Plain R)
    {result : Except ε γ} (h : operation.EndsAfter s millis (.returned result)) :
    (guard ⟨name, ⟨limit, .cancel⟩⟩ operation).TimesOut s limit ↔
      limit.ceilMillis < millis := by
  constructor
  · rintro ⟨ms, hout⟩
    by_contra hin
    -- The operation would have been in time, and its result is its own.
    obtain ⟨-, hsame⟩ := hout.unique (endsAfter_cancel name limit h (by omega)).1
    cases result <;> cases hsame
  -- It has not ended at the deadline, so it is dropped.
  · intro hlt
    exact ⟨_, (endsAfter_cancel_cut name limit hop (h.runsPast hlt)).1⟩

end Deadline

open Deadline in
/-- An operation that leaves the layers alone, under the same deadline in both modes. Under
`cancel` it keeps its ending up to the deadline, and is dropped then if it has not ended. Under
`advisory` it keeps its ending always, and a time beyond the deadline is reported. A deadline of
whole milliseconds is missed in one mode if and only if it is in the other. -/
theorem cancel_agrees_with_advisory {β γ ε : Type} (name : String) (limit : Duration)
    {operation : Activity β (Except ε γ)} (hop : operation.Meets Effect.Plain fun _ => True)
    (s : Scene) :
    let cancel := guard ⟨name, ⟨limit, .cancel⟩⟩ operation
    let advisory := guard ⟨name, ⟨limit, .advisory⟩⟩ operation
    let due := limit.ceilMillis
    (∀ millis ending, operation.EndsAfter s millis ending → millis ≤ due →
      cancel.EndsAfter s millis (wrapped ending) ∧ cancel.trace s = operation.trace s) ∧
    (operation.RunsPast s due →
      cancel.EndsAfter s due (.returned (.error (.timedOut limit))) ∧
      cancel.trace s = upTo (s.world.now + due) (operation.trace s) ++
        (expiry ⟨name, ⟨limit, .cancel⟩⟩).map fun notice =>
          (s.world.now + due, .tell notice)) ∧
    (∀ millis ending, operation.EndsAfter s millis ending →
      advisory.EndsAfter s millis (wrapped ending)) ∧
    (∀ millis result, operation.EndsAfter s millis (.returned result) →
      sights (advisory.trace s) = sights (operation.trace s) ++
        if limit.nanos < millis * 10 ^ 6 then
          [(s.world.now + millis, .signal (.operationDuration name (millisWord millis)))]
        else []) ∧
    (∀ millis, millis < 2 ^ 64 → (millisWord millis).toNat = millis) ∧
    (∀ millis message, operation.EndsAfter s millis (.panicked message) →
      sights (advisory.trace s) = sights (operation.trace s)) ∧
    (10 ^ 6 ∣ limit.nanos → ∀ millis result, operation.EndsAfter s millis (.returned result) →
        (cancel.TimesOut s limit ↔ sights (advisory.trace s) ≠ sights (operation.trace s)) ∧
        (¬ cancel.TimesOut s limit → ∀ ms ending,
          cancel.EndsAfter s ms ending ↔ advisory.EndsAfter s ms ending)) := by
  intro cancel advisory due
  refine ⟨fun _ _ => endsAfter_cancel name limit, endsAfter_cancel_cut name limit hop,
    fun _ _ => endsAfter_advisory name limit, fun _ _ => sights_advisory name limit,
    fun _ => toNat_millisWord, fun _ _ => sights_advisory_panicked name limit,
    fun hwhole millis result hends => ?_⟩
  have hnanos : limit.nanos = due * 10 ^ 6 := nanos_eq_of_dvd limit hwhole
  -- Under `cancel` a missed deadline shows in the result, under `advisory` in the report.
  have hout : cancel.TimesOut s limit ↔ due < millis := timesOut_iff name limit hop hends
  refine ⟨?_, fun hin ms ending => ?_⟩
  · -- The report is there if and only if the measured time is longer than the span.
    have hseen : sights (advisory.trace s) = sights (operation.trace s) ++
      measured name limit (s.world.now + millis) millis := sights_advisory name limit hends
    rw [hout, hseen, ne_eq, List.append_right_eq_self]
    unfold measured
    split <;> simp <;> omega
  · -- Both modes return what the operation returns.
    rw [hout, Nat.not_lt] at hin
    have hcancel := (endsAfter_cancel name limit hends hin).1
    have hadvisory := endsAfter_advisory name limit hends
    constructor
    · intro h
      obtain ⟨rfl, rfl⟩ := h.unique hcancel
      exact hadvisory
    · intro h
      obtain ⟨rfl, rfl⟩ := h.unique hadvisory
      exact hcancel

open Deadline in
/-- An attempt of five milliseconds under a deadline of three. -/
theorem cancel_agrees_with_advisory_slow :
    let operation := (Script.repeating (.timed (.ofMillis 5) (.value 1)) : Script Nat).operation
    let limit := Duration.ofMillis 3
    let s : Scene := ⟨.start true, .empty⟩
    operation.Meets Effect.Plain (fun _ => True) ∧
      operation.EndsAfter s 5 (.returned (.ok 1)) ∧
      (guard ⟨"api", ⟨limit, .cancel⟩⟩ operation).EndsAfter s 3
        (.returned (.error (.timedOut limit))) ∧
      (guard ⟨"api", ⟨limit, .advisory⟩⟩ operation).EndsAfter s 5 (.returned (.ok 1)) ∧
      sights ((guard ⟨"api", ⟨limit, .advisory⟩⟩ operation).trace s) =
        [(0, .attempt), (5, .signal (.operationDuration "api" 5))] := by
  intro operation limit s
  have hop : operation.Meets Effect.Plain fun _ => True := Script.meets_operation _
  have hends : operation.EndsAfter s 5 (.returned (.ok 1)) := by decide
  obtain ⟨-, hlate, hown, hreport, -⟩ := cancel_agrees_with_advisory "api" limit hop s
  rw [show limit.ceilMillis = 3 by decide] at hlate
  exact ⟨hop, hends, (hlate (hends.runsPast (by decide))).1, hown 5 _ hends,
    (hreport 5 _ hends).trans (by decide +kernel)⟩

end Safeguard
