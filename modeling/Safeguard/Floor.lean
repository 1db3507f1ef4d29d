import Safeguard.World

/-!
# Activities that share a world

A `Floor` is a world with the calls that are under way in it. Each call waits for a time or for an
outcome from outside; time moves only when everything waits, and then to the earliest timer that is
due. Of timers that are due together, the one that was set first goes first.

One call can be made in the foreground (`Floor.call`): it goes on until it ends, and the calls in
the background go on meanwhile, each in its turn. Everything else happens between two moments: calls
are started, fed, dropped, or time passes.
-/

namespace Safeguard

/-- A call that waits. -/
structure Job (β ρ : Type) where
  id : String
  /-- When the call was made. -/
  began : Nat
  /-- When its wait began. -/
  since : Nat
  record : Record
  /-- Outcomes that were fed and not yet waited for. -/
  fed : List (Outcome β)
  pause : Wait
  next : Wake β pause.limit pause.gated → Activity β ρ

/-- How far an activity goes by itself. -/
inductive Pause (β ρ : Type) where
  | ended (ending : Ending ρ)
  | waiting (w : Wait) (next : Wake β w.limit w.gated → Activity β ρ)

/-- Runs an activity as far as it goes without time passing; outcomes that were fed already open its
gates at once. -/
def Activity.advance {β ρ : Type} :
    Activity β ρ → List (Outcome β) → Scene → Pause β ρ × List (Outcome β) × Scene
  | .ended ending, fed, s => (.ended ending, fed, s)
  | .act e next, fed, s =>
    let (answer, s) := s.perform e
    (next answer).advance fed s
  | .wait w next, [], s => (.waiting w next, [], s)
  | .wait w next, outcome :: fed, s =>
    if h : w.gated = true then (next (.opened h 0 outcome)).advance fed s
    else (.waiting w next, outcome :: fed, s)

namespace Job

variable {β ρ : Type}

/-- When the wait of a call ends by itself. -/
def due (j : Job β ρ) : Option Nat := j.pause.limit.map (j.since + ·)

/-- The milliseconds from the beginning of a call's wait to time `t`, that moment included. -/
def slack (t : Nat) (j : Job β ρ) : Nat := t + 1 - j.since

/-- The slack of several calls. -/
def slacks (t : Nat) : List (Job β ρ) → Nat
  | [] => 0
  | j :: js => slack t j + slacks t js

/-- The slack of two groups of calls is that of both. -/
private theorem slacks_append (t : Nat) (jobs others : List (Job β ρ)) :
    slacks t (jobs ++ others) = slacks t jobs + slacks t others := by
  induction jobs with
  | nil => simp [slacks]
  | cons j js ih =>
    simp only [List.cons_append, slacks, ih]
    omega

/-- The call whose timer is due first, at time `t` at the latest, and the others. -/
def takeDue (t : Nat) : List (Job β ρ) → Option (Job β ρ × List (Job β ρ))
  | [] => none
  | j :: js =>
    match takeDue t js, j.due with
    | none, none => none
    | none, some d => if d ≤ t then some (j, js) else none
    | some (k, others), none => some (k, j :: others)
    | some (k, others), some d =>
      -- Of calls that are due at the same time the one in front is taken.
      if k.due.any (d ≤ ·) then some (j, js) else some (k, j :: others)

/-- The call that is taken is due, and it takes nothing but its own slack away. -/
theorem takeDue_spec {t : Nat} {jobs others : List (Job β ρ)} {k : Job β ρ}
    (h : takeDue t jobs = some (k, others)) :
    (∃ d, k.due = some d ∧ d ≤ t) ∧ slacks t jobs = slack t k + slacks t others := by
  induction jobs generalizing k others with
  | nil => simp [takeDue] at h
  | cons j js ih =>
    simp only [takeDue] at h
    split at h
    · simp at h
    · next d _ hd =>
      split at h
      · next hle =>
        obtain ⟨rfl, rfl⟩ : j = k ∧ js = others := by simpa using h
        exact ⟨⟨d, hd, hle⟩, by simp [slacks]⟩
      · simp at h
    · next k' others' hk _ =>
      obtain ⟨rfl, rfl⟩ : k' = k ∧ j :: others' = others := by simpa using h
      obtain ⟨hdue, hsum⟩ := ih hk
      refine ⟨hdue, ?_⟩
      simp only [slacks] at hsum ⊢
      omega
    · next k' others' d hk hd =>
      obtain ⟨⟨d', hd', hle⟩, hsum⟩ := ih hk
      split at h
      -- The call at hand is due no later than the first of the others.
      · next hany =>
        obtain ⟨rfl, rfl⟩ : j = k ∧ js = others := by simpa using h
        refine ⟨⟨d, hd, ?_⟩, by simp [slacks]⟩
        simp only [hd', Option.any_some, decide_eq_true_eq] at hany
        omega
      · obtain ⟨rfl, rfl⟩ : k' = k ∧ j :: others' = others := by simpa using h
        refine ⟨⟨d', hd', hle⟩, ?_⟩
        simp only [slacks] at hsum ⊢
        omega

end Job

/-- A world and the calls under way in it. -/
structure Floor (β ρ : Type) where
  world : World
  /-- The calls that wait, in the order in which their waits began. -/
  jobs : List (Job β ρ)
  /-- The calls that came to an end, in order of time. -/
  completed : List (String × Report ρ)
  /-- The permits that are held outside of any call, by the name of the holder. -/
  permits : List (String × Nat)

namespace Floor

variable {β ρ : Type}

/-- A floor without calls. -/
def ofWorld (world : World) : Floor β ρ := ⟨world, [], [], []⟩

variable (f : Floor β ρ)

/-- The attempts that are under way. -/
def running : Nat := f.jobs.countP (·.pause.running)

/-- The floor with a call that has come to an end. -/
def complete (id : String) (report : Report ρ) : Floor β ρ :=
  { f with completed := f.completed ++ [(id, report)] }

/-- Lets an activity of a call go as far as it can. -/
def advance (id : String) (began : Nat) (record : Record) (fed : List (Outcome β))
    (activity : Activity β ρ) : Floor β ρ :=
  match activity.advance fed ⟨f.world, record⟩ with
  | (.ended ending, _, s) =>
    { f with world := s.world }.complete id (s.record.report began s.world.now (some ending))
  | (.waiting pause next, fed, s) =>
    -- The wait begins at the time of the floor, which an activity does not move.
    let job := { id, began, since := f.world.now, record := s.record, fed, pause, next }
    { f with world := s.world, jobs := f.jobs ++ [job] }

/-- The floor at a later time. -/
def atTime (t : Nat) : Floor β ρ := { f with world := { f.world with now := t } }

/-- A call whose wait has ended goes on. -/
def wake (j : Job β ρ) (wake : Wake β j.pause.limit j.pause.gated) : Floor β ρ :=
  f.advance j.id j.began j.record j.fed (j.next wake)

/-- A call whose timer is due goes on at the time it is due. -/
def fire (j : Job β ρ) : Floor β ρ :=
  match h : j.pause.limit with
  | some ms => (f.atTime (j.since + ms)).wake j (.elapsed ms h)
  | none => f

/-- A call that goes on waits from a later time on, so some slack is used up: this is why `runUntil`
comes to an end. -/
theorem slacks_fire {t : Nat} {j : Job β ρ} {d : Nat} (hdue : j.due = some d) (hle : d ≤ t) :
    Job.slacks t (f.fire j).jobs < Job.slack t j + Job.slacks t f.jobs := by
  obtain ⟨ms, hms, rfl⟩ := Option.map_eq_some_iff.1 hdue
  -- A wait takes at least a millisecond.
  have hpos := j.pause.limit_pos ms hms
  unfold fire
  split
  · next ms' hms' =>
    obtain rfl : ms = ms' := Option.some.inj (hms.symm.trans hms')
    simp only [wake, advance]
    split
    · simp only [complete, atTime, Job.slack]
      omega
    · simp only [atTime, Job.slacks_append, Job.slacks, Job.slack]
      omega
  · next hnone => simp [hnone] at hms

/-- The floor at time `t`, after every timer that is due by then. -/
def runUntil (t : Nat) (f : Floor β ρ) : Floor β ρ :=
  match _h : Job.takeDue t f.jobs with
  | none => f.atTime t
  | some (j, others) => runUntil t ({ f with jobs := others }.fire j)
termination_by Job.slacks t f.jobs
decreasing_by
  obtain ⟨⟨d, hd, hle⟩, hsum⟩ := Job.takeDue_spec _h
  have := slacks_fire { f with jobs := others } hd hle
  dsimp only at this
  omega

/-- The timer that is due first goes off, if one is due by time `t`. -/
def fireNext (t : Nat) (f : Floor β ρ) : Floor β ρ :=
  match Job.takeDue t f.jobs with
  | none => f
  | some (j, others) => { f with jobs := others }.fire j

/-- The number of calls whose timers are due exactly at time `t`. -/
def dueAt (t : Nat) (f : Floor β ρ) : Nat := f.jobs.countP (·.due = some t)

/-- The floor at time `t`, when it is the turn of a wait that begins now and ends then: of the calls
that are due at `t`, those that wait already have gone on and later ones have not. -/
def runUpTo (t : Nat) (f : Floor β ρ) : Floor β ρ :=
  ((f.dueAt t).repeat (fireNext t) (f.runUntil (t - 1))).atTime t

/-- Runs an activity in the foreground. -/
def foreground : Activity β ρ → Record → Floor β ρ → Option (Ending ρ) × Record × Floor β ρ
  | .ended ending, record, f => (some ending, record, f)
  | .act e next, record, f =>
    let (answer, s) := Scene.perform ⟨f.world, record⟩ e
    foreground (next answer) s.record { f with world := s.world }
  | .wait w next, record, f =>
    match h : w.limit with
    | some ms => foreground (next (.elapsed ms h)) record (f.runUpTo (f.world.now + ms))
    | none => (none, record, f)

/-- A call in the foreground; calls in the background that are due when it ends go on as well. -/
def call (activity : Activity β ρ) : Report ρ × Floor β ρ :=
  let began := f.world.now
  let (ending, record, f) := foreground activity .empty f
  let now := f.world.now
  (record.report began now ending, f.runUntil now)

/-- A call in the background. -/
def start (id : String) (activity : Activity β ρ) : Floor β ρ :=
  f.advance id f.world.now .empty [] activity

/-- The call with a given name and the others. -/
def takeJob (id : String) : List (Job β ρ) → Option (Job β ρ × List (Job β ρ))
  | [] => none
  | j :: js =>
    if j.id = id then some (j, js)
    else (takeJob id js).map fun (k, others) => (k, j :: others)

/-- Feeds an outcome to a call, which goes on if it waits for one; no answer if no such call is
under way. -/
def feed? (id : String) (outcome : Outcome β) : Option (Floor β ρ) := do
  let (j, others) ← takeJob id f.jobs
  if h : j.pause.gated = true then
    some ({ f with jobs := others }.wake j (.opened h (f.world.now - j.since) outcome))
  else
    -- The call does not wait for an outcome now, so it is kept for its next gate.
    let jobs := f.jobs.map fun k =>
      if k.id = id then { k with fed := k.fed ++ [outcome] } else k
    some { f with jobs }

/-- Drops a call; no answer if no such call is under way. -/
def drop? (id : String) : Option (Floor β ρ) := do
  let (j, others) ← takeJob id f.jobs
  -- Permits that the call holds come back.
  let world := j.pause.leaves.foldl World.leave f.world
  some ({ f with world, jobs := others }.complete id (j.record.report j.began f.world.now none))

/-- Lets time pass, as long as a sleep of this span takes. -/
def sleep (d : Duration) : Floor β ρ := f.runUntil (f.world.now + d.sleepMillis)

/-- Gives the permit of a holder back; says whether there was one. -/
def giveBack (holder : String) : Bool × Floor β ρ :=
  match f.permits.lookup holder with
  | none => (false, f)
  | some i =>
    (true, { f with
      world := f.world.leave i
      permits := f.permits.filter (·.1 ≠ holder) })

/-- Takes a permit of bulkhead `i` for a holder; says whether there was one. A permit that the
holder has already is given back after that. -/
def hold (holder : String) (i : Nat) : Bool × Floor β ρ :=
  match f.world.enter i with
  | (.error _, world) => (false, { f with world })
  | (.ok (), world) =>
    let f := ({ f with world }.giveBack holder).2
    (true, { f with permits := (holder, i) :: f.permits })

/-- The calls that came to an end since they were last asked for, in the order of their names. -/
def collect : List (String × Report ρ) × Floor β ρ :=
  -- Calls of the same name stay in the order in which they ended.
  (f.completed.mergeSort (·.1 ≤ ·.1), { f with completed := [] })

end Floor

end Safeguard
