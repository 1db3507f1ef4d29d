import Safeguard.Proofs.BackgroundCourse

/-!
# Activities that run alone

`Activity.Alone I E x s` follows the activity `x` from the scene `s` while no other call goes on: in
the scene in which it ends, `E` holds of the ending, and in every scene in which it begins to wait,
`I` holds of the permits that it gives back if it is dropped there. Time passes while it waits, and
the clock of the breakers may be moved; nothing else changes meanwhile (`Scene.later`). Each wait
may end in any way and after any time, so one derivation speaks of the call in the foreground and in
the background, and of every point at which it can be dropped.

## Key results

- `Alone.bind`, `Alone.holding`, `Alone.deadline`: the combinators
- `Floor.call_alone`: a call in the foreground
- `Floor.run_alone`: a call in the background that is fed, waits and may be dropped
- `Floor.ReportedAlone.left`: what the report of a call says, in either way
-/

namespace Safeguard

variable {β α γ : Type}

/-- The scene at another time, the clock of the breakers being another one. -/
def Scene.later (s : Scene) (now : Nat) (clock : Clock) : Scene :=
  { s with world := { s.world with now, clock } }

/-- The scene after permits were given back. -/
def Scene.leaves (s : Scene) (l : List Nat) : Scene :=
  { s with world := l.foldl World.leave s.world }

namespace Activity

/-- The activity ends with `E` and waits with `I`, if no other call goes on. -/
inductive Alone (I : List Nat → Scene → Prop) (E : Ending α → Scene → Prop) :
    Activity β α → Scene → Prop where
  | ended {ending : Ending α} {s : Scene} (h : E ending s) : Alone I E (.ended ending) s
  | act {e : Effect} {next : e.Answer → Activity β α} {s : Scene}
      (h : Alone I E (next (s.perform e).1) (s.perform e).2) : Alone I E (.act e next) s
  | wait {w : Wait} {next : Wake β w.limit w.gated → Activity β α} {s : Scene}
      (hwaits : I w.leaves s)
      (h : ∀ wake clock, Alone I E (next wake) (s.later (s.world.now + wake.time) clock)) :
      Alone I E (.wait w next) s

/-- What is left of a wait is followed by what may follow the wait of the whole. -/
theorem Reaches.leaving (l : List Nat) (x : Activity β α) (s : Scene) :
    (Activity.leaving l x).Reaches s x (s.leaves l) := by
  induction l generalizing s with
  | nil => exact .refl _ _
  | cons i l ih => exact .act (ih _)

namespace Alone

variable {I J : List Nat → Scene → Prop} {E D : Ending α → Scene → Prop}
  {F : Ending γ → Scene → Prop} {x y : Activity β α} {s s' : Scene}

/-- Less may be asked of the waits and of the end. -/
theorem mono (hx : x.Alone I E s) (hwaits : ∀ l s, I l s → J l s)
    (hended : ∀ ending s, E ending s → D ending s) : x.Alone J D s := by
  induction hx with
  | ended h => exact .ended (hended _ _ h)
  | act _ ih => exact .act ih
  | wait h _ ih => exact .wait (hwaits _ _ h) ih

/-- What an activity does before it comes to a point. -/
theorem of_reaches (hxy : x.Reaches s y s') (hy : y.Alone I E s') : x.Alone I E s := by
  induction hxy with
  | refl => exact hy
  | act _ ih => exact .act (ih hy)

/-- The answer to an effect is known in a scene. -/
theorem answered {e : Effect} {next : e.Answer → Activity β α} {a : e.Answer}
    (he : (s.perform e).1 = a) (h : (next a).Alone I E (s.perform e).2) :
    (Activity.act e next).Alone I E s := by
  subst he
  exact .act h

/-- What follows begins in the scene in which the first part returns. -/
theorem bind {k : α → Activity β γ} (hx : x.Alone I E s)
    (hreturned : ∀ a s, E (.returned a) s → (k a).Alone I F s)
    (hpanicked : ∀ message s, E (.panicked message) s → F (.panicked message) s) :
    (x.bind k).Alone I F s := by
  induction hx with
  | @ended ending s h =>
    -- Only what returns is followed by the second part.
    cases ending with
    | returned a => exact hreturned a s h
    | panicked message => exact .ended (hpanicked message s h)
  | act _ ih => exact .act ih
  | wait h _ ih => exact .wait h ih

/-- A result is changed on the way out. -/
theorem map {f : α → γ} (hx : x.Alone I (fun ending => F (ending.map f)) s) :
    (x.map f).Alone I F s :=
  hx.bind (fun _ _ h => .ended h) fun _ _ h => h

/-- Notices are told at once. -/
theorem telling {notices : List Notice}
    (h : x.Alone I E { s with world := s.world.tell notices }) :
    (Activity.telling notices x).Alone I E s :=
  .of_reaches (.telling notices x s) h

/-- A sleep takes its time; none takes no time. -/
theorem sleep {E : Ending Unit → Scene → Prop} (running : Bool) (ms : Nat) (hwaits : I [] s)
    (h : ∀ clock, E (.returned ()) (s.later (s.world.now + ms) clock)) :
    (Activity.sleep running ms : Activity β Unit).Alone I E s := by
  unfold Activity.sleep
  split
  · refine .wait hwaits fun wake clock => .ended ?_
    cases wake with
    | elapsed ms' hms =>
      -- The sleep has ended after its time. Nothing from outside can end it.
      obtain rfl : ms = ms' := Option.some.inj hms
      exact h clock
    | opened hgated => exact absurd hgated Bool.false_ne_true
  · next hpos =>
    obtain rfl : ms = 0 := by omega
    exact .ended (h s.world.clock)

/-- A permit is given back in the end, or when the activity is dropped. -/
theorem holding {i : Nat} (hx : x.Alone (fun l => I (i :: l))
    (fun ending s => E ending { s with world := s.world.leave i }) s) :
    (x.holding i).Alone I E s := by
  induction hx with
  | ended h => exact .act (.ended h)
  | act _ ih => exact .act ih
  | wait h _ ih => exact .wait h ih

/-- An activity that is dropped at its deadline has come as far as one that is dropped from
outside. -/
theorem deadline {E : Ending (Option α) → Scene → Prop} (hx : x.Alone I D s)
    (hended : ∀ ending s, D ending s → E (ending.map some) s)
    (hdropped : ∀ l s now clock, I l s → s.world.now ≤ now →
      E (.returned none) ((s.later now clock).leaves l)) (budget : Nat) :
    (x.deadline budget).Alone I E s := by
  induction hx generalizing budget with
  | ended h => exact .ended (hended _ _ h)
  | act _ ih => exact .act (ih budget)
  | @wait w next s hwaits _ ih =>
    -- The time is up before the wait, after it, or during it.
    have dropped (now : Nat) (clock : Clock) (hle : s.world.now ≤ now) :
        (Activity.leaving w.leaves (Activity.pure none) : Activity β (Option α)).Alone I E
          (s.later now clock) :=
      .of_reaches (.leaving _ _ _) (.ended (hdropped _ _ _ _ hwaits hle))
    unfold Activity.deadline
    split
    · exact dropped s.world.now s.world.clock (Nat.le_refl _)
    · split
      · exact .wait hwaits fun wake clock => ih wake clock _
      · refine .wait hwaits fun wake clock => ?_
        cases wake with
        | elapsed => exact dropped _ _ (Nat.le_add_right _ _)
        | opened => exact ih _ _ _

/-! ### Going on -/

/-- How far a call that runs alone has come. -/
def Comes (I : List Nat → Scene → Prop) (E : Ending α → Scene → Prop) :
    Pause β α → Scene → Prop
  | .ended ending => E ending
  | .waiting w next => Alone I E (.wait w next)

/-- A call that goes on by itself comes to its end or to its next wait. -/
theorem advance (hx : x.Alone I E s) (fed : List (Outcome β)) :
    Comes I E (x.advance fed s).1 (x.advance fed s).2.2 := by
  induction hx generalizing fed with
  | ended h => exact h
  | act _ ih => exact ih fed
  | @wait w next s hwaits h ih =>
    cases fed with
    | nil => exact .wait hwaits h
    | cons outcome fed =>
      unfold Activity.advance
      split
      · -- An outcome that was fed before opens the gate at once.
        next hgated => exact ih (.opened hgated 0 outcome) s.world.clock fed
      · exact .wait hwaits h

end Alone

end Activity

/-! ## Floors on which no other call goes on -/

namespace Job

variable {ρ : Type} {t : Nat} {jobs : List (Job β ρ)}

/-- No timer is due by time `t`. -/
def Late (t : Nat) (jobs : List (Job β ρ)) : Prop := ∀ j ∈ jobs, ∀ d, j.due = some d → t < d

/-- Calls that wait for outcomes from outside are never due. -/
theorem Late.of_due_eq_none (t : Nat) (h : ∀ j ∈ jobs, j.due = none) : Late t jobs :=
  fun j hj _ hd => absurd ((h j hj).symm.trans hd) nofun

/-- What is not due by a time is not due before. -/
theorem Late.mono (h : Late t jobs) {t' : Nat} (hle : t' ≤ t) : Late t' jobs :=
  fun j hj d hd => Nat.lt_of_le_of_lt hle (h j hj d hd)

/-- Nothing is taken if nothing is due. -/
theorem Late.takeDue_eq_none (h : Late t jobs) : takeDue t jobs = none := by
  cases htake : takeDue t jobs with
  | none => rfl
  | some p =>
    obtain ⟨⟨d, hd, hle⟩, -⟩ := takeDue_spec htake
    have hlt := h p.1 ((takeDue_perm htake).mem_iff.2 List.mem_cons_self) d hd
    omega

/-- Of one more call and others that are not due, only the one can be taken. -/
private theorem Late.eq_of_takeDue_concat (h : Late t jobs) {j k : Job β ρ}
    {others : List (Job β ρ)} (htake : takeDue t (jobs ++ [k]) = some (j, others)) :
    j = k ∧ others = jobs := by
  -- By induction on the others: none of them is due, so none is preferred to the one behind.
  induction jobs generalizing j others with
  | nil =>
    have hperm := takeDue_perm htake
    obtain ⟨rfl, rfl⟩ := List.cons.inj (List.singleton_perm.1 hperm).symm
    exact ⟨rfl, rfl⟩
  | cons l jobs ih =>
    have hrest : Late t jobs := fun j hj => h j (List.mem_cons_of_mem _ hj)
    simp only [List.cons_append, takeDue] at htake
    split at htake
    · cases htake
    · next d _ hd =>
      have hlt := h l List.mem_cons_self d hd
      rw [if_neg (by omega)] at htake
      cases htake
    · next hk _ =>
      cases htake
      obtain ⟨rfl, rfl⟩ := ih hrest hk
      exact ⟨rfl, rfl⟩
    · next d hk hd =>
      obtain ⟨⟨d', hd', hle⟩, -⟩ := takeDue_spec hk
      have hlt := h l List.mem_cons_self d hd
      rw [if_neg (by rw [hd', Option.any_some, decide_eq_true_eq]; omega)] at htake
      cases htake
      obtain ⟨rfl, rfl⟩ := ih hrest hk
      exact ⟨rfl, rfl⟩

end Job

namespace Floor

open Activity (Alone)

variable {ρ : Type} {f : Floor β ρ} {id : String}
  {I : List Nat → Scene → Prop} {E : Ending ρ → Scene → Prop}

/-- The calls that are under way all wait beyond time `t`. -/
def RestsUntil (f : Floor β ρ) (t : Nat) : Prop := Job.Late t f.jobs

/-- As long as nothing is due, time just passes. -/
theorem runUntil_of_late {t : Nat} (h : Job.Late t f.jobs) : f.runUntil t = f.atTime t := by
  rw [runUntil]
  split
  · rfl
  · next heq => simp [h.takeDue_eq_none] at heq

/-- The same up to the turn of a wait. -/
theorem runUpTo_of_late {t : Nat} (h : Job.Late t f.jobs) : f.runUpTo t = f.atTime t := by
  have hnone : f.dueAt t = 0 := by
    refine List.countP_eq_zero.2 fun j hj => ?_
    have hne : j.due ≠ some t := fun hd => Nat.lt_irrefl t (h j hj t hd)
    simpa using hne
  rw [runUpTo, hnone, runUntil_of_late (h.mono (Nat.sub_le t 1))]
  rfl

/-! ### In the foreground -/

/-- Time does not go back during a call in the foreground. -/
private theorem le_foreground (x : Activity β ρ) (record : Record) (f : Floor β ρ) :
    f.world.now ≤ (foreground x record f).2.2.world.now := by
  induction x generalizing record f with
  | ended ending => exact Nat.le_refl _
  | act e next ih =>
    refine Nat.le_trans (Nat.le_of_eq ?_) (ih _ _ _)
    exact (Scene.now_perform ⟨f.world, record⟩ e).symm
  | wait w next ih =>
    simp only [foreground]
    split
    · next ms hms =>
      -- The others run up to the end of the wait, which is not before its beginning.
      have hle : f.world.now ≤ (f.runUpTo (f.world.now + ms)).world.now := Nat.le_add_right _ _
      exact Nat.le_trans hle (ih (.elapsed ms hms) record _)
    · exact Nat.le_refl _

/-- A call in the foreground ends as it does alone, and the calls that wait are left as they were.
-/
private theorem foreground_alone {x : Activity β ρ} {record : Record}
    (hx : x.Alone I E ⟨f.world, record⟩)
    (hlate : Job.Late (foreground x record f).2.2.world.now f.jobs) {ending : Ending ρ}
    (hending : (foreground x record f).1 = some ending) :
    ∃ s, E ending s ∧
      foreground x record f = (some ending, s.record, { f with world := s.world }) := by
  generalize hs : (⟨f.world, record⟩ : Scene) = s at hx
  induction hx generalizing record f with
  | @ended ending' s h =>
    subst hs
    obtain rfl : ending' = ending := Option.some.inj hending
    exact ⟨_, h, rfl⟩
  | @act e next s _ ih =>
    subst hs
    exact ih (f := { f with world := _ }) hlate hending rfl
  | @wait w next s _ _ ih =>
    subst hs
    cases hlimit : w.limit with
    | none =>
      rw [foreground_stuck hlimit] at hending
      cases hending
    | some ms =>
      -- Nothing else goes off before this wait is over.
      have htime := le_foreground (next (.elapsed ms hlimit)) record
        (f.runUpTo (f.world.now + ms))
      rw [foreground_wait hlimit] at hlate hending ⊢
      have hwait : f.runUpTo (f.world.now + ms) = f.atTime (f.world.now + ms) :=
        runUpTo_of_late (hlate.mono htime)
      rw [hwait] at hlate hending ⊢
      exact ih (.elapsed ms hlimit) f.world.clock (f := f.atTime (f.world.now + ms)) hlate hending
        rfl

/-- A call in the foreground, while the calls in the background all wait. -/
theorem call_alone {x : Activity β ρ} (hx : x.Alone I E ⟨f.world, .empty⟩)
    (hrests : f.RestsUntil (f.call x).2.world.now) {ending : Ending ρ}
    (hending : (f.call x).1.ending = some ending) :
    ∃ s, E ending s ∧ f.call x =
      (s.record.report f.world.now s.world.now (some ending), { f with world := s.world }) := by
  have hnow : (f.call x).2.world.now = (foreground x .empty f).2.2.world.now := now_runUntil _ _
  -- All others wait beyond the end of the call.
  have hlate : Job.Late (f.call x).2.world.now f.jobs := hrests
  rw [hnow] at hlate
  obtain ⟨s, hs, hend⟩ := foreground_alone hx hlate hending
  refine ⟨s, hs, ?_⟩
  rw [hend] at hlate
  simp only [call, hend]
  rw [runUntil_of_late (f := { f with world := s.world }) hlate]
  rfl

/-! ### In the background -/

/-- No call that waits has the name. -/
private theorem takeJob_of_ne {jobs : List (Job β ρ)} (h : ∀ j ∈ jobs, j.id ≠ id) :
    takeJob id jobs = none := by
  cases htake : takeJob id jobs with
  | none => rfl
  | some p =>
    have hmem := (takeJob_perm htake).mem_iff.2 List.mem_cons_self
    exact absurd (id_takeJob htake) (h p.1 hmem)

/-- The call that was made last has the name, and no other. -/
private theorem takeJob_concat {jobs : List (Job β ρ)} (h : ∀ j ∈ jobs, j.id ≠ id) {k : Job β ρ}
    (hk : k.id = id) : takeJob id (jobs ++ [k]) = some (k, jobs) := by
  induction jobs with
  | nil => simp [takeJob, hk]
  | cons j jobs ih =>
    have hrest := ih fun j' hj' => h j' (List.mem_cons_of_mem _ hj')
    rw [List.cons_append, takeJob, if_neg (h j List.mem_cons_self), hrest]
    rfl

/-- There is no such call to feed any more. -/
private theorem Unused.feed?_eq_none (hunused : f.Unused id) {g : Floor β ρ} (outcome : Outcome β)
    (hjobs : g.jobs = f.jobs) : g.feed? id outcome = none := by
  rw [feed?, hjobs, takeJob_of_ne hunused.jobs]
  rfl

/-- There is no such call to drop any more. -/
private theorem Unused.drop?_eq_none (hunused : f.Unused id) {g : Floor β ρ}
    (hjobs : g.jobs = f.jobs) :
    g.drop? id = none := by
  rw [drop?, hjobs, takeJob_of_ne hunused.jobs]
  rfl

/-- A step that lets a call go on, or drops it, and concerns no other call. -/
def Step.Concerns (id : String) : Step β ρ → Prop
  | feed id' _ | drop id' => id' = id
  | sleep _ | advance _ => True
  | start _ _ | hold _ _ | giveBack _ => False

/-- What is left by a call that has ended, or that was dropped at a wait. -/
inductive Left (I : List Nat → Scene → Prop) (E : Ending ρ → Scene → Prop) :
    Option (Ending ρ) → Scene → Prop where
  | ended {ending : Ending ρ} {s : Scene} (h : E ending s) : Left I E (some ending) s
  | dropped {l : List Nat} {s : Scene} (h : I l s) {now : Nat} (hnow : s.world.now ≤ now)
      (clock : Clock) : Left I E none ((s.later now clock).leaves l)

/-- What has become of a call that was made on the floor `f`, where no other call goes on. -/
inductive Lone (I : List Nat → Scene → Prop) (E : Ending ρ → Scene → Prop) (id : String)
    (f : Floor β ρ) : Floor β ρ → Prop where
  | waiting {w : Wait} {next : Wake β w.limit w.gated → Activity β ρ} {s : Scene}
      (h : (Activity.wait w next).Alone I E s) (fed : List (Outcome β)) {now : Nat}
      (hnow : s.world.now ≤ now) (clock : Clock) : Lone I E id f { f with
        world := (s.later now clock).world
        jobs := f.jobs ++ [⟨id, f.world.now, s.world.now, s.record, fed, w, next⟩] }
  | reported {ending : Option (Ending ρ)} {s : Scene} (h : Left I E ending s) (now : Nat)
      (clock : Clock) : Lone I E id f (({ f with
        world := (s.later now clock).world } : Floor β ρ).complete id
          (s.record.report f.world.now s.world.now ending))

namespace Lone

variable {g : Floor β ρ}

/-- The call is reported at once. -/
theorem left {ending : Option (Ending ρ)} {s : Scene} (h : Left I E ending s) {now : Nat}
    (hnow : s.world.now = now) : Lone I E id f (({ f with
      world := s.world } : Floor β ρ).complete id (s.record.report f.world.now now ending)) := by
  subst hnow
  exact .reported h s.world.now s.world.clock

/-- The call goes on. -/
theorem advance {x : Activity β ρ} {s : Scene} (hx : x.Alone I E s) (fed : List (Outcome β)) :
    Lone I E id f (({ f with world := s.world } : Floor β ρ).advance id f.world.now s.record fed
      x) := by
  have hcomes := hx.advance fed
  -- No time passes up to the next wait.
  have hnow := x.now_advance fed s
  unfold Floor.advance
  generalize x.advance fed s = p at hcomes hnow
  obtain ⟨pause, rest, s'⟩ := p
  dsimp only at hcomes hnow ⊢
  cases pause with
  | ended ending => exact left (.ended hcomes) rfl
  | waiting w next =>
    rw [← hnow]
    exact .waiting hcomes rest (Nat.le_refl _) s'.world.clock

/-- Time passes. -/
theorem runUntil (h : Lone I E id f g) {t : Nat} (hle : g.world.now ≤ t)
    (hlate : Job.Late t f.jobs) : Lone I E id f (g.runUntil t) := by
  -- Induction on the timers that go off: only those of the call itself can.
  fun_induction Floor.runUntil t g with
  | case1 g hnone =>
    cases h with
    | waiting h fed hnow clock => exact .waiting h fed (Nat.le_trans hnow hle) clock
    | reported h now clock => exact .reported h t clock
  | case2 g j others hdue ih =>
    cases h with
    | reported h => simp [complete, hlate.takeDue_eq_none] at hdue
    | @waiting w next s h fed now hnow clock =>
      -- Only the call itself can be due, and it goes on from where it began to wait.
      obtain ⟨rfl, rfl⟩ := hlate.eq_of_takeDue_concat hdue
      obtain ⟨⟨d, hd, hdt⟩, -⟩ := Job.takeDue_spec hdue
      obtain ⟨ms, hms, rfl⟩ := Option.map_eq_some_iff.1 hd
      rw [fire_eq hms] at ih ⊢
      cases h with
      | wait _ hnext =>
      refine ih (advance (hnext (.elapsed ms hms) clock) fed) ?_
      rw [wake, Floor.now_advance]
      exact hdt

/-- The call is fed an outcome, which opens its gate or is kept for later. -/
theorem feed (h : Lone I E id f g) (hunused : f.Unused id) (outcome : Outcome β) :
    Lone I E id f ((g.feed? id outcome).getD g) := by
  cases h with
  | reported h now clock =>
    rw [hunused.feed?_eq_none outcome]
    · exact .reported h now clock
    · rfl
  | @waiting w next s h fed now hnow clock =>
    unfold feed?
    rw [takeJob_concat hunused.jobs rfl]
    dsimp only [Option.bind_eq_bind, Option.bind_some]
    split
    · next hgated =>
      cases h with
      | wait _ hnext =>
      -- The wait has lasted since the scene in which it began.
      have hwake := hnext (.opened hgated (now - s.world.now) outcome) clock
      rw [show s.world.now + Wake.time (.opened hgated (now - s.world.now) outcome) = now from
        Nat.add_sub_cancel' hnow] at hwake
      exact advance hwake fed
    · have hothers : (f.jobs.map fun k =>
          if k.id = id then { k with fed := k.fed ++ [outcome] } else k) = f.jobs := by
        refine (List.map_congr_left fun k hk => ?_).trans (List.map_id _)
        rw [if_neg (hunused.jobs k hk)]
        rfl
      simp only [Option.getD_some, List.map_append, hothers, List.map_cons, List.map_nil, if_true]
      exact .waiting h _ hnow clock

/-- The call is dropped. -/
theorem drop (h : Lone I E id f g) (hunused : f.Unused id) :
    Lone I E id f ((g.drop? id).getD g) := by
  cases h with
  | reported h now clock =>
    rw [hunused.drop?_eq_none]
    · exact .reported h now clock
    · rfl
  | @waiting w next s h fed now hnow clock =>
    cases h with
    | wait hwaits _ =>
      unfold drop?
      -- The call stands behind all others, none of which has its name.
      rw [takeJob_concat hunused.jobs rfl]
      exact left (.dropped hwaits hnow clock) (now_leaves w.leaves (s.later now clock).world)

/-- One step. -/
theorem step (h : Lone I E id f g) (hunused : f.Unused id) {s : Step β ρ} (hs : s.Concerns id)
    (hlate : Job.Late (g.step s).2.world.now f.jobs) : Lone I E id f (g.step s).2 := by
  -- Steps that concern other calls are excluded.
  cases s with
  | start | hold | giveBack => exact hs.elim
  | feed id' outcome =>
    obtain rfl : id' = id := hs
    exact h.feed hunused outcome
  | drop id' =>
    obtain rfl : id' = id := hs
    exact h.drop hunused
  | sleep d =>
    refine h.runUntil (Nat.le_add_right _ _) ?_
    rw [← now_runUntil (g.world.now + d.sleepMillis) g]
    exact hlate
  | advance span =>
    simp only [Floor.step]
    split
    · next clock _ =>
      cases h with
      | waiting h fed hnow _ => exact .waiting h fed hnow clock
      | reported h now _ => exact .reported h now clock
    · exact h

end Lone

/-- Time does not go back in a step. -/
private theorem le_step (f : Floor β ρ) (s : Step β ρ) : f.world.now ≤ (f.step s).2.world.now := by
  cases s with
  | sleep d => exact Nat.le_trans (Nat.le_add_right _ _) (Nat.le_of_eq (now_runUntil _ f).symm)
  | _ => exact Nat.le_of_eq (now_step f (by simp)).symm

/-- Nor in a history. -/
private theorem le_run (f : Floor β ρ) (history : List (Step β ρ)) :
    f.world.now ≤ (f.run history).world.now := by
  induction history generalizing f with
  | nil => exact Nat.le_refl _
  | cons s history ih => exact Nat.le_trans (le_step f s) (ih _)

/-- Any number of steps. -/
theorem Lone.run {g : Floor β ρ} (h : Lone I E id f g) (hunused : f.Unused id)
    {history : List (Step β ρ)} (hhistory : ∀ s ∈ history, s.Concerns id)
    (hlate : Job.Late (g.run history).world.now f.jobs) : Lone I E id f (g.run history) := by
  induction history generalizing g with
  | nil => exact h
  | cons s history ih =>
    -- Time does not go back, so the others are not due after this step either.
    have hstep := h.step hunused (hhistory s List.mem_cons_self)
      (hlate.mono (le_run (g.step s).2 history))
    exact ih hstep (fun s' hs' => hhistory s' (List.mem_cons_of_mem _ hs')) hlate

/-- A call in the background, while the others all wait: it is fed, time passes, and it may be
dropped. -/
theorem run_alone {x : Activity β ρ} (hx : x.Alone I E ⟨f.world, .empty⟩) (hunused : f.Unused id)
    {history : List (Step β ρ)} (hhistory : ∀ s ∈ history, s.Concerns id)
    (hrests : f.RestsUntil ((f.start id x).run history).world.now) :
    Lone I E id f ((f.start id x).run history) :=
  (Lone.advance hx []).run hunused hhistory hrests

/-- A report on the call tells what the call left, and nothing but time has passed since then. -/
private theorem Lone.of_mem_completed {g : Floor β ρ} (h : Lone I E id f g) (hunused : f.Unused id)
    {report : Report ρ} (hreport : (id, report) ∈ g.completed) :
    ∃ ending s, Left I E ending s ∧ report = s.record.report f.world.now s.world.now ending ∧
      g.world = (s.later g.world.now g.world.clock).world := by
  cases h with
  | waiting => exact absurd rfl (hunused.completed _ hreport)
  | @reported ending s h now clock =>
    rcases List.mem_append.1 hreport with hold | hnew
    · exact absurd rfl (hunused.completed _ hold)
    · exact ⟨ending, s, h, (Prod.mk.inj (List.mem_singleton.1 hnew)).2, rfl⟩

/-! ### Reported in either way -/

/-- A call that was made on the floor `f`, while the others all wait, is reported, and `w` is the
world then. In the foreground it has ended. In the background it may have been fed and dropped, and
time may have passed. -/
inductive ReportedAlone (f : Floor β ρ) (x : Activity β ρ) : Report ρ → World → Prop where
  | foreground {report : Report ρ} {g : Floor β ρ} (hcall : f.call x = (report, g))
      (hended : report.ending.isSome) (hrests : f.RestsUntil g.world.now) :
      ReportedAlone f x report g.world
  | background {id : String} {history : List (Step β ρ)} {report : Report ρ} {g : Floor β ρ}
      (hunused : f.Unused id) (hhistory : ∀ s ∈ history, s.Concerns id)
      (hrun : (f.start id x).run history = g) (hreport : (id, report) ∈ g.completed)
      (hrests : f.RestsUntil g.world.now) : ReportedAlone f x report g.world

/-- The report tells what the call left, and nothing but time has passed since then. -/
theorem ReportedAlone.left {x : Activity β ρ} {report : Report ρ} {w : World}
    (h : f.ReportedAlone x report w) (hx : x.Alone I E ⟨f.world, .empty⟩) :
    ∃ ending s, Left I E ending s ∧ report = s.record.report f.world.now s.world.now ending ∧
      w = (s.later w.now w.clock).world := by
  cases h with
  | foreground hcall hended hrests =>
    obtain ⟨ending, hending⟩ := Option.isSome_iff_exists.1 hended
    obtain ⟨s, hs, heq⟩ := call_alone hx (by rwa [hcall]) (by rw [hcall, hending])
    obtain ⟨rfl, rfl⟩ := Prod.mk.inj (hcall.symm.trans heq)
    exact ⟨some ending, s, .ended hs, rfl, rfl⟩
  | background hunused hhistory hrun hreport hrests =>
    subst hrun
    exact (run_alone hx hunused hhistory hrests).of_mem_completed hunused hreport

end Floor

end Safeguard
