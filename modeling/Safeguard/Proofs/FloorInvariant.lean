import Mathlib.Data.List.Basic
import Safeguard.Floor.History

/-!
# Invariants of a floor

Everything that goes on by itself on a floor is made of two moves: time is set, and a call whose
time has passed goes on. `Floor.KeptInTime P` says that these moves keep `P`; then the timers keep
it, in whatever order they are due. If the moves from outside that concern a call that waits keep
it as well (`Floor.KeptExactly P`), so does every step that neither makes a call nor touches the
world. `Floor.Kept P` is enough for a `P` that does not count calls.

## Key results

- `KeptInTime.runUntil`, `KeptInTime.runUpTo`: the timers
- `KeptExactly.step`: one step of a history
-/

namespace Safeguard

namespace Job

variable {β ρ : Type}

/-- The call that is due first and the others are the calls that wait. -/
theorem takeDue_perm {t : Nat} {jobs others : List (Job β ρ)} {k : Job β ρ}
    (h : takeDue t jobs = some (k, others)) : jobs.Perm (k :: others) := by
  induction jobs generalizing k others with
  | nil => simp [takeDue] at h
  | cons j js ih =>
    -- If a later call is due first, the one at hand stays with the others.
    have tail {k : Job β ρ} {others : List (Job β ρ)} (hk : takeDue t js = some (k, others)) :
        (j :: js).Perm (k :: j :: others) :=
      ((ih hk).cons j).trans (List.Perm.swap k j others)
    simp only [takeDue] at h
    split at h
    · simp at h
    · split at h
      · obtain ⟨rfl, rfl⟩ : j = k ∧ js = others := by simpa using h
        exact .refl _
      · simp at h
    · next k' others' hk _ =>
      obtain ⟨rfl, rfl⟩ : k' = k ∧ j :: others' = others := by simpa using h
      exact tail hk
    · next k' others' d hk _ =>
      split at h
      · obtain ⟨rfl, rfl⟩ : j = k ∧ js = others := by simpa using h
        exact .refl _
      · obtain ⟨rfl, rfl⟩ : k' = k ∧ j :: others' = others := by simpa using h
        exact tail hk

end Job

namespace Floor

variable {β ρ : Type}

/-- The call of a given name and the others are the calls that wait. -/
theorem takeJob_perm {id : String} {jobs others : List (Job β ρ)} {k : Job β ρ}
    (h : takeJob id jobs = some (k, others)) : jobs.Perm (k :: others) := by
  induction jobs generalizing k others with
  | nil => simp [takeJob] at h
  | cons j js ih =>
    simp only [takeJob] at h
    split at h
    · obtain ⟨rfl, rfl⟩ : j = k ∧ js = others := by simpa using h
      exact .refl _
    · obtain ⟨⟨k', others'⟩, hk, heq⟩ := Option.map_eq_some_iff.1 h
      obtain ⟨rfl, rfl⟩ : k' = k ∧ j :: others' = others := by simpa using heq
      -- The call is taken from the rest, so it moves to the front past the first one.
      exact ((ih hk).cons j).trans (List.Perm.swap k' j others')

/-- The call that is taken has the name. -/
theorem id_takeJob {id : String} {jobs others : List (Job β ρ)} {k : Job β ρ}
    (h : takeJob id jobs = some (k, others)) : k.id = id := by
  induction jobs generalizing k others with
  | nil => simp [takeJob] at h
  | cons j js ih =>
    simp only [takeJob] at h
    split at h
    · next hid =>
      obtain ⟨rfl, rfl⟩ : j = k ∧ js = others := by simpa using h
      exact hid
    · obtain ⟨⟨k', others'⟩, hk, heq⟩ := Option.map_eq_some_iff.1 h
      obtain ⟨rfl, -⟩ : k' = k ∧ j :: others' = others := by simpa using heq
      exact ih hk

/-- If none is taken, no call that waits has the name. -/
theorem takeJob_eq_none {id : String} {jobs : List (Job β ρ)} (h : takeJob id jobs = none) :
    ∀ j ∈ jobs, j.id ≠ id := by
  induction jobs with
  | nil => nofun
  | cons j js ih =>
    simp only [takeJob] at h
    split at h
    · cases h
    · next hid => exact List.forall_mem_cons.2 ⟨hid, ih (Option.map_eq_none_iff.1 h)⟩

/-- A permit that is given back concerns no call. -/
theorem giveBack_eq (f : Floor β ρ) (holder : String) :
    ∃ w permits, (f.giveBack holder).2 = { f with world := w, permits } := by
  unfold giveBack
  split
  · exact ⟨f.world, f.permits, rfl⟩
  · exact ⟨_, _, rfl⟩

/-- A permit that is taken outside of any call concerns no call. -/
theorem hold_eq (f : Floor β ρ) (holder : String) (i : Nat) :
    ∃ w permits, (f.hold holder i).2 = { f with world := w, permits } := by
  unfold hold
  split
  · exact ⟨_, f.permits, rfl⟩
  · next w _ =>
    obtain ⟨w', permits, hback⟩ := giveBack_eq ({ f with world := w } : Floor β ρ) holder
    exact ⟨w', (holder, i) :: permits, by rw [hback]⟩

/-- What time keeps: it is set, and a call whose time has passed goes on while the others wait. -/
structure KeptInTime (P : Floor β ρ → Prop) : Prop where
  atTime : ∀ f t, P f → P (f.atTime t)
  elapsed : ∀ (f : Floor β ρ) j others, P f → f.jobs.Perm (j :: others) →
    ∀ ms h, P ({ f with jobs := others }.wake j (.elapsed ms h))

/-- What time and the calls that wait keep if none of them is lost: they go on, are fed before they
ask for it, or are dropped. -/
structure KeptExactly (P : Floor β ρ → Prop) : Prop extends KeptInTime P where
  opened : ∀ (f : Floor β ρ) j others, P f → f.jobs.Perm (j :: others) →
    ∀ h after outcome, P ({ f with jobs := others }.wake j (.opened h after outcome))
  fed : ∀ (f : Floor β ρ) id outcome, P f → P { f with jobs := f.jobs.map fun k =>
    if k.id = id then { k with fed := k.fed ++ [outcome] } else k }
  drop : ∀ (f : Floor β ρ) j others id, P f → f.jobs.Perm (j :: others) →
    P ({ f with world := j.pause.leaves.foldl World.leave f.world, jobs := others }.complete id
      (j.record.report j.began f.world.now none))

/-- What time and the calls that wait keep: they go on, are fed before they ask for it, or are
dropped. -/
structure Kept (P : Floor β ρ → Prop) : Prop where
  atTime : ∀ f t, P f → P (f.atTime t)
  wake : ∀ (f : Floor β ρ) j others, P f → j ∈ f.jobs → others ⊆ f.jobs →
    ∀ w, P ({ f with jobs := others }.wake j w)
  fed : ∀ (f : Floor β ρ) id outcome, P f → P { f with jobs := f.jobs.map fun k =>
    if k.id = id then { k with fed := k.fed ++ [outcome] } else k }
  drop : ∀ (f : Floor β ρ) j others id, P f → j ∈ f.jobs → others ⊆ f.jobs →
    P ({ f with world := j.pause.leaves.foldl World.leave f.world, jobs := others }.complete id
      (j.record.report j.began f.world.now none))

namespace KeptInTime

variable {P : Floor β ρ → Prop} {f : Floor β ρ}

/-- A timer that goes off. -/
theorem fire (hP : KeptInTime P) (h : P f) {j : Job β ρ} {others : List (Job β ρ)} {t : Nat}
    (hdue : Job.takeDue t f.jobs = some (j, others)) :
    P ({ f with jobs := others }.fire j) := by
  have hperm := Job.takeDue_perm hdue
  obtain ⟨⟨d, hd, -⟩, -⟩ := Job.takeDue_spec hdue
  unfold Floor.fire
  split
  · next ms _ => exact hP.elapsed (f.atTime (j.since + ms)) j others (hP.atTime f _ h) hperm _ _
  · next hnone => simp [Job.due, hnone] at hd

/-- The timers, one after another. -/
theorem runUntil (hP : KeptInTime P) (t : Nat) (h : P f) : P (f.runUntil t) := by
  fun_induction Floor.runUntil t f with
  | case1 f _ => exact hP.atTime f t h
  | case2 f j others hdue ih => exact ih (hP.fire h hdue)

/-- The timer that is due first. -/
theorem fireNext (hP : KeptInTime P) (t : Nat) (h : P f) : P (f.fireNext t) := by
  unfold Floor.fireNext
  split
  · exact h
  · next hdue => exact hP.fire h hdue

/-- The timers up to the turn of a wait that begins now. -/
theorem runUpTo (hP : KeptInTime P) (t : Nat) (h : P f) : P (f.runUpTo t) := by
  -- The timers that are due at that very time, one after another.
  have fired : ∀ (n : Nat) (g : Floor β ρ), P g → P (n.repeat (Floor.fireNext t) g) := by
    intro n g hg
    induction n with
    | zero => exact hg
    | succ n ih => exact hP.fireNext t ih
  exact hP.atTime _ t (fired _ _ (hP.runUntil _ h))

/-- A call in the foreground, if what it does to the world does not matter. -/
theorem call (hP : KeptInTime P) (hworld : ∀ f w, P f → P { f with world := w }) (h : P f)
    (x : Activity β ρ) : P (f.call x).2 := by
  have hend : ∀ record, P (Floor.foreground x record f).2.2 := by
    -- Induction on the activity: it acts on the world and lets time pass.
    induction x generalizing f with
    | ended ending => exact fun _ => h
    | act e next ih => exact fun record => ih _ (hworld f _ h) _
    | wait w next ih =>
      intro record
      simp only [Floor.foreground]
      split
      · exact ih _ (hP.runUpTo _ h) record
      · exact h
  exact hP.runUntil _ (hend .empty)

end KeptInTime

namespace KeptExactly

variable {P : Floor β ρ → Prop} {f : Floor β ρ}

/-- A call that is fed goes on, or keeps the outcome for later. -/
theorem feed (hP : KeptExactly P) (h : P f) (id : String) (outcome : Outcome β) :
    P ((f.feed? id outcome).getD f) := by
  unfold Floor.feed?
  cases htake : takeJob id f.jobs with
  | none => exact h
  | some p =>
    obtain ⟨j, others⟩ := p
    have hperm := takeJob_perm htake
    dsimp only [Option.bind_eq_bind, Option.bind_some]
    -- The call takes the outcome if it waits for one that is fed, else it is kept for later.
    split
    · exact hP.opened f j others h hperm _ _ _
    · exact hP.fed f id outcome h

/-- A call that is dropped. -/
theorem dropped (hP : KeptExactly P) (h : P f) (id : String) : P ((f.drop? id).getD f) := by
  unfold Floor.drop?
  cases htake : takeJob id f.jobs with
  | none => exact h
  | some p =>
    obtain ⟨j, others⟩ := p
    have hperm := takeJob_perm htake
    exact hP.drop f j others id h hperm

/-- Two properties at once. -/
theorem and (hP : KeptExactly P) {Q : Floor β ρ → Prop} (hQ : KeptExactly Q) :
    KeptExactly fun f => P f ∧ Q f where
  atTime f t h := ⟨hP.atTime f t h.1, hQ.atTime f t h.2⟩
  elapsed f j others h hperm ms hms :=
    ⟨hP.elapsed f j others h.1 hperm ms hms, hQ.elapsed f j others h.2 hperm ms hms⟩
  opened f j others h hperm hgated after outcome :=
    ⟨hP.opened f j others h.1 hperm hgated after outcome,
      hQ.opened f j others h.2 hperm hgated after outcome⟩
  fed f id outcome h := ⟨hP.fed f id outcome h.1, hQ.fed f id outcome h.2⟩
  drop f j others id h hperm := ⟨hP.drop f j others id h.1 hperm, hQ.drop f j others id h.2 hperm⟩

/-- A step, if what is done to the floor from outside keeps `P` as well. -/
theorem step (hP : KeptExactly P) (h : P f) (s : Step β ρ)
    (hstart : ∀ id x, s = .start id x → P (f.start id x))
    (hadvance : ∀ span clock, s = .advance span → P { f with world := { f.world with clock } })
    (hhold : ∀ holder i, P (f.hold holder i).2) (hback : ∀ holder, P (f.giveBack holder).2) :
    P (f.step s).2 := by
  cases s with
  | start id x => exact hstart id x rfl
  | feed id outcome => exact hP.feed h id outcome
  | drop id => exact hP.dropped h id
  | sleep d => exact hP.toKeptInTime.runUntil _ h
  | advance span =>
    simp only [Floor.step]
    split
    · exact hadvance span _ rfl
    · exact h
  | hold holder i => exact hhold holder i
  | giveBack holder => exact hback holder

end KeptExactly

namespace Kept

variable {P : Floor β ρ → Prop} {f : Floor β ρ}

/-- A property that does not count the calls. -/
theorem exactly (hP : Kept P) : KeptExactly P where
  atTime := hP.atTime
  elapsed f j others h hperm _ _ :=
    hP.wake f j others h (hperm.mem_iff.2 List.mem_cons_self) (fun _ hk =>
      hperm.mem_iff.2 (List.mem_cons_of_mem _ hk)) _
  opened f j others h hperm _ _ _ :=
    hP.wake f j others h (hperm.mem_iff.2 List.mem_cons_self) (fun _ hk =>
      hperm.mem_iff.2 (List.mem_cons_of_mem _ hk)) _
  fed := hP.fed
  drop f j others id h hperm :=
    hP.drop f j others id h (hperm.mem_iff.2 List.mem_cons_self) fun _ hk =>
      hperm.mem_iff.2 (List.mem_cons_of_mem _ hk)

/-- The timers keep it too. -/
theorem runUntil (hP : Kept P) (t : Nat) (h : P f) : P (f.runUntil t) :=
  hP.exactly.toKeptInTime.runUntil t h

/-- So do those that are due before the turn of a wait that begins now. -/
theorem runUpTo (hP : Kept P) (t : Nat) (h : P f) : P (f.runUpTo t) :=
  hP.exactly.toKeptInTime.runUpTo t h

/-- And so does every step, if what is done from outside does. -/
theorem step (hP : Kept P) (h : P f) (s : Step β ρ)
    (hstart : ∀ id x, s = .start id x → P (f.start id x))
    (hadvance : ∀ span clock, s = .advance span → P { f with world := { f.world with clock } })
    (hhold : ∀ holder i, P (f.hold holder i).2) (hback : ∀ holder, P (f.giveBack holder).2) :
    P (f.step s).2 :=
  hP.exactly.step h s hstart hadvance hhold hback

end Kept

end Floor

end Safeguard
