import Safeguard.World

/-!
# Running an activity

`Activity.trace` lists the effects of a run, each with its time, in order. `Activity.Runs` is the
run as a derivation, with the trace, the ending and the scene it leaves: proofs follow an activity
through its combinators by `Runs` and come back to `Activity.run` and `Activity.trace` at the end.
`sights` keeps of a trace what an observer sees, the attempts that begin and the signals.

## Key results

- `run_bind`, `run_holding`: the run of an activity inside another one
- `Runs.run_eq`, `Runs.trace_eq`: a derivation determines the run and its trace
- `Runs.bind`, `Runs.telling`, `Runs.sleep`: the combinators
- `Runs.starts_eq`: the record of a call lists the attempts of the trace
-/

namespace Safeguard

/-! ## Time and the journal -/

namespace World

variable (w : World)

/-- Telling takes no time. -/
@[simp] theorem now_tell (notices : List Notice) : (w.tell notices).now = w.now := rfl

@[simp] theorem tell_nil : w.tell [] = w := by
  simp [tell]

/-- Which notices a world keeps does not depend on its journal. -/
@[simp] theorem keeps_tell (notices : List Notice) : (w.tell notices).keeps = w.keeps := by
  funext notice
  cases notice <;> rfl

/-- To tell one thing after another is to tell both. -/
theorem tell_tell (notices more : List Notice) :
    (w.tell notices).tell more = w.tell (notices ++ more) := by
  -- Whether a notice is kept does not depend on the journal.
  have hjournal : ((w.tell notices).tell more).journal = (w.tell (notices ++ more)).journal := by
    show (w.journal ++ _) ++ ((more.filter (w.tell notices).keeps).map _) = w.journal ++ _
    rw [keeps_tell, List.filter_append, List.map_append]
    apply Array.ext'
    simp
  exact congrArg (fun journal => { w with journal }) hjournal

/-- Signals are kept in order by a world that listens, and by no other. -/
theorem signals_tell (notices : List Notice) :
    Notice.signals (w.tell notices).notices =
      Notice.signals w.notices ++ if w.listening then Notice.signals notices else [] := by
  -- The lines drop out on both sides, so the filter of the journal only acts on the signals.
  have hkept : Notice.signals (notices.filter w.keeps) =
      if w.listening then Notice.signals notices else [] := by
    induction notices with
    | nil => simp [Notice.signals]
    | cons notice notices ih =>
      cases notice with
      | line l =>
        rw [List.filter_cons_of_pos (show w.keeps (.line l) = true from rfl)]
        exact ih
      | signal s =>
        cases hlistening : w.listening with
        | false =>
          rw [List.filter_cons_of_neg (by simp [keeps, hlistening]), ih, hlistening]
          rfl
        | true =>
          rw [List.filter_cons_of_pos (by simp [keeps, hlistening])]
          rw [hlistening] at ih
          exact congrArg (s :: ·) ih
  have hnotices : (w.tell notices).notices = w.notices ++ notices.filter w.keeps := by
    simp [World.tell, World.notices, Function.comp_def]
  rw [hnotices, ← hkept, Notice.signals_append]

end World

namespace Activity

variable {β α γ : Type}

/-- The effects of a run that nothing else shares the world with, each with its time. -/
def trace : Activity β α → Scene → List (Nat × Effect)
  | .ended _, _ => []
  | .act e next, s => (s.world.now, e) :: (next (s.perform e).1).trace (s.perform e).2
  | .wait w next, s =>
    match h : w.limit with
    | some ms => (next (.elapsed ms h)).trace { s with world := s.world.after ms }
    | none => []

/-! ### The combinators -/

/-- A wait with an end goes on when its time is up. -/
theorem run_wait {w : Wait} {ms : Nat} (h : w.limit = some ms)
    (next : Wake β w.limit w.gated → Activity β α) (s : Scene) :
    (Activity.wait w next).run s =
      (next (.elapsed ms h)).run { s with world := s.world.after ms } := by
  -- The end of the wait is found again by the match, so it is the same number.
  rw [run]
  split
  · next ms' h' =>
    obtain rfl : ms = ms' := Option.some.inj (h.symm.trans h')
    rfl
  · next h' => simp [h] at h'

/-- A wait for something outside is never over. -/
theorem run_stuck {w : Wait} (h : w.limit = none) (next : Wake β w.limit w.gated → Activity β α)
    (s : Scene) : (Activity.wait w next).run s = (none, s) := by
  rw [run]
  split
  · next ms h' => simp [h] at h'
  · rfl

/-- How a run goes on after an activity that has stopped. -/
def resume (k : α → Activity β γ) : Option (Ending α) × Scene → Option (Ending γ) × Scene
  | (some (.returned a), s) => (k a).run s
  | (some (.panicked message), s) => (some (.panicked message), s)
  | (none, s) => (none, s)

/-- What follows an activity runs where the activity has stopped. -/
theorem run_bind (k : α → Activity β γ) (x : Activity β α) (s : Scene) :
    (x.bind k).run s = resume k (x.run s) := by
  -- By induction on the tree. The scene is free: effects and waits change it before the rest.
  induction x generalizing s with
  | ended ending => cases ending <;> rfl
  | act e next ih => exact ih _ _
  | wait w next ih =>
    rcases Option.eq_none_or_eq_some w.limit with h | ⟨ms, h⟩
    · rw [Activity.bind, run_stuck h, run_stuck h, resume]
    · rw [Activity.bind, run_wait h, run_wait h]
      exact ih _ _

/-- The permit of an activity that has stopped is given back, unless it waits for good. -/
def giveBack (i : Nat) : Option (Ending α) × Scene → Option (Ending α) × Scene
  | (some ending, s) => (some ending, { s with world := s.world.leave i })
  | (none, s) => (none, s)

/-- A held permit is given back where the activity has stopped. -/
theorem run_holding (i : Nat) (x : Activity β α) (s : Scene) :
    (x.holding i).run s = giveBack i (x.run s) := by
  induction x generalizing s with
  | ended ending => rfl
  | act e next ih => exact ih _ _
  | wait w next ih =>
    -- The wait gives the permit back if it is dropped, but it has the same end.
    rcases Option.eq_none_or_eq_some w.limit with h | ⟨ms, h⟩
    · rw [holding, run_stuck h, run_stuck (w := w.leaving i) h, giveBack]
    · rw [holding, run_wait h, run_wait (w := w.leaving i) h]
      exact ih _ _

/-! ### Derivations -/

/-- The activity `x`, run from the scene `s`, has the effects `t`, ends with `r` if it ends, and
leaves the scene `s'`. -/
inductive Runs :
    Activity β α → Scene → List (Nat × Effect) → Option (Ending α) → Scene → Prop where
  | ended (ending : Ending α) (s : Scene) : Runs (.ended ending) s [] (some ending) s
  | act {e : Effect} {next : e.Answer → Activity β α} {s s' : Scene} {t : List (Nat × Effect)}
      {r : Option (Ending α)} (h : Runs (next (s.perform e).1) (s.perform e).2 t r s') :
      Runs (.act e next) s ((s.world.now, e) :: t) r s'
  | elapsed {w : Wait} {next : Wake β w.limit w.gated → Activity β α} {s s' : Scene} {ms : Nat}
      {t : List (Nat × Effect)} {r : Option (Ending α)} (hms : w.limit = some ms)
      (h : Runs (next (.elapsed ms hms)) { s with world := s.world.after ms } t r s') :
      Runs (.wait w next) s t r s'
  | stuck {w : Wait} {next : Wake β w.limit w.gated → Activity β α} (s : Scene)
      (hnone : w.limit = none) : Runs (.wait w next) s [] none s

namespace Runs

variable {x : Activity β α} {s s' s'' : Scene} {t t' : List (Nat × Effect)}
  {r : Option (Ending α)}

/-- A derivation determines how the run ends and the scene it leaves. -/
theorem run_eq (h : x.Runs s t r s') : x.run s = (r, s') := by
  induction h with
  | ended ending s => rfl
  | act _ ih => exact ih
  | @elapsed w next s s' ms t r hms _ ih =>
    simp only [Activity.run]
    split
    · next ms' hms' =>
      -- Both ends are those of the one wait.
      obtain rfl : ms = ms' := Option.some.inj (hms.symm.trans hms')
      exact ih
    · next hnone => simp [hms] at hnone
  | stuck s hnone =>
    simp only [Activity.run]
    split
    · next ms hms => simp [hnone] at hms
    · rfl

/-- A derivation determines the trace of the run. -/
theorem trace_eq (h : x.Runs s t r s') : x.trace s = t := by
  induction h with
  | ended ending s => rfl
  | act _ ih => exact congrArg _ ih
  | @elapsed w next s s' ms t r hms _ ih =>
    simp only [Activity.trace]
    split
    · next ms' hms' =>
      -- Both name the time of the same wait.
      obtain rfl : ms = ms' := Option.some.inj (hms.symm.trans hms')
      exact ih
    -- A wait that has a time is not stuck.
    · next hnone => simp [hms] at hnone
  | stuck s hnone =>
    simp only [Activity.trace]
    split
    · next ms hms => simp [hnone] at hms
    · rfl

/-- What follows an activity that returned goes on where it stopped. -/
theorem bind {k : α → Activity β γ} {a : α} {r : Option (Ending γ)}
    (hx : x.Runs s t (some (.returned a)) s') (hk : (k a).Runs s' t' r s'') :
    (x.bind k).Runs s (t ++ t') r s'' := by
  -- The ending is an index of the derivation, so it is named before the induction.
  generalize hend : some (Ending.returned a) = ending at hx
  induction hx with
  | ended ending s =>
    cases hend
    exact hk
  | act _ ih => exact .act (ih hk hend)
  | elapsed hms _ ih => exact .elapsed hms (ih hk hend)
  | stuck s hnone => cases hend

/-- Nothing follows an activity that panicked. -/
theorem bind_panicked {k : α → Activity β γ} {message : String}
    (hx : x.Runs s t (some (.panicked message)) s') :
    (x.bind k).Runs s t (some (.panicked message)) s' := by
  -- The ending is an index of the derivation, so it is named before the induction.
  generalize hend : some (Ending.panicked message) = ending at hx
  induction hx with
  | ended ending s =>
    cases hend
    exact .ended _ _
  | act _ ih => exact .act (ih hend)
  | elapsed hms _ ih => exact .elapsed hms (ih hend)
  | stuck s hnone => cases hend

/-- What is told at first stands at the head of the trace. -/
theorem telling (notices : List Notice)
    (h : x.Runs { s with world := s.world.tell notices } t r s') :
    (Activity.telling notices x).Runs s
      (notices.map (fun notice => (s.world.now, .tell notice)) ++ t) r s' := by
  induction notices generalizing s with
  | nil => simpa [Activity.telling] using h
  | cons notice notices ih =>
    -- The first notice is told by itself, then the rest in the world that has heard it.
    rw [← List.singleton_append, ← World.tell_tell] at h
    exact .act (ih h)

/-- A sleep lets its time pass; none takes no time. -/
theorem sleep (running : Bool) (ms : Nat) (s : Scene) :
    (Activity.sleep running ms : Activity β Unit).Runs s [] (some (.returned ()))
      { s with world := s.world.after ms } := by
  unfold Activity.sleep
  split
  · exact .elapsed rfl (.ended _ _)
  · next hpos =>
    obtain rfl : ms = 0 := by omega
    exact .ended _ _

end Runs

/-! ## What an observer sees -/

end Activity

/-- What an observer sees of a call. -/
inductive Sight where
  | attempt
  | signal (s : Signal)
deriving DecidableEq

/-- What an observer sees of an effect that the layers have no part in. -/
def Effect.sight : Effect → Option Sight
  | invoke => some .attempt
  | tell (.signal s) => some (.signal s)
  | _ => none

/-- An effect that leaves the breakers, the bulkheads and the registry alone. -/
def Effect.Plain : Effect → Prop
  | clock | invoke | conclude | tell _ => True
  | findBreaker _ _ | findBulkhead _ _ | acquire _ | settle _ _ | enter _ | leave _ => False

/-- What an observer sees of a trace, with the times. -/
def sights (t : List (Nat × Effect)) : List (Nat × Sight) :=
  t.filterMap fun (now, e) => e.sight.map (now, ·)

@[simp] theorem sights_nil : sights [] = [] := rfl

/-- What is seen of two traces, one after the other. -/
@[simp] theorem sights_append (t t' : List (Nat × Effect)) :
    sights (t ++ t') = sights t ++ sights t' :=
  List.filterMap_append ..

/-- The times at which attempts begin. -/
def attemptTimes (l : List (Nat × Sight)) : List Nat :=
  l.filterMap fun
    | (now, .attempt) => some now
    | (_, .signal _) => none

/-- The attempts of two traces, one after the other. -/
@[simp] theorem attemptTimes_append (l l' : List (Nat × Sight)) :
    attemptTimes (l ++ l') = attemptTimes l ++ attemptTimes l' :=
  List.filterMap_append ..

/-- The signals that are told. -/
def toldSignals (l : List (Nat × Sight)) : List Signal :=
  l.filterMap fun
    | (_, .attempt) => none
    | (_, .signal s) => some s

/-- The signals of two traces, one after the other. -/
@[simp] theorem toldSignals_append (l l' : List (Nat × Sight)) :
    toldSignals (l ++ l') = toldSignals l ++ toldSignals l' :=
  List.filterMap_append ..

/-- The record of a call lists the attempts of its trace. -/
theorem Activity.Runs.starts_eq {β α : Type} {x : Activity β α} {s s' : Scene}
    {t : List (Nat × Effect)} {r : Option (Ending α)} (h : x.Runs s t r s') :
    s'.record.starts.toList = s.record.starts.toList ++ attemptTimes (sights t) := by
  induction h with
  | ended | stuck => simp [attemptTimes]
  | elapsed _ _ ih => exact ih
  | @act e next s s' t r _ ih =>
    -- Only the beginning of an attempt adds to the record, and only it is a sight of that kind.
    rw [ih]
    cases e with
    | tell notice => cases notice <;> simp [Scene.perform, sights, Effect.sight, attemptTimes]
    | _ => simp [Scene.perform, sights, Effect.sight, attemptTimes]

/-- The journal of a world that listens lists the signals of a trace, if the trace leaves the layers
alone. -/
theorem Activity.Runs.signals_eq {β α : Type} {x : Activity β α} {s s' : Scene}
    {t : List (Nat × Effect)} {r : Option (Ending α)} (h : x.Runs s t r s')
    (hplain : ∀ p ∈ t, p.2.Plain) (hlistening : s.world.listening = true) :
    Notice.signals s'.world.notices =
      Notice.signals s.world.notices ++ toldSignals (sights t) := by
  induction h with
  | ended | stuck => simp [toldSignals]
  | elapsed _ _ ih => exact ih hplain hlistening
  | @act e next s s' t r _ ih =>
    have he : e.Plain := hplain _ List.mem_cons_self
    have hrest : ∀ p ∈ t, p.2.Plain := fun p hp => hplain p (List.mem_cons_of_mem _ hp)
    -- Plain effects other than `tell` leave the journal alone, the others are excluded.
    cases e with
    | tell notice =>
      rw [ih hrest hlistening]
      cases notice <;>
        simp [Scene.perform, World.tell, World.notices, World.keeps, Notice.signals, sights,
          Effect.sight, toldSignals, hlistening]
    | clock | invoke | conclude => exact ih hrest hlistening
    | _ => exact he.elim

end Safeguard
