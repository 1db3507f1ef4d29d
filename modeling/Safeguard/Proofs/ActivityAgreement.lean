import Safeguard.Proofs.ActivityContract
import Safeguard.Proofs.CallProgress

/-!
# Activities that come to the same

Two calls come to the same if they make the same attempts at the same times, tell the same signals
and end alike, whatever else each of them does. `Activity.Agrees` compares two activities tree
against tree: both go through the same attempts and the same waits, and in between each of them may
do something of its own of which nothing is seen. Nothing is said of the worlds in which they run,
so one may find breakers and bulkheads that the other does not know. What is seen of signals is up
to `seen`.

The comparison carries over to calls in the foreground: a `Course` is what an observer can tell of
such a call on a floor where other calls are under way.

## Key results

- `Agrees.bind`, `Agrees.holding_left`: the combinators
- `Agrees.refl`: an activity that leaves the layers alone comes to the same anywhere
- `Agrees.course_eq`: two calls in the foreground, each on a floor of its own
-/

namespace Safeguard

/-! ## Effects of which nothing is seen -/

/-- Whether a sight is looked for: an attempt always is. -/
def Sight.shown (seen : Signal → Bool) : Sight → Bool
  | attempt => true
  | signal s => seen s

/-- The attempts of a trace and the signals of it that are looked for, with the times. -/
def glimpses (seen : Signal → Bool) (t : List (Nat × Effect)) : List (Nat × Sight) :=
  (sights t).filter (·.2.shown seen)

/-- If every signal is looked for, everything is seen. -/
theorem glimpses_all (t : List (Nat × Effect)) : glimpses (fun _ => true) t = sights t := by
  refine List.filter_eq_self.2 fun p _ => ?_
  cases p.2 <;> rfl

/-- An effect of which nothing is seen: it neither begins nor ends an attempt, and tells no signal
that is looked for. -/
def Effect.Hidden (seen : Signal → Bool) : Effect → Prop
  | invoke | conclude => False
  | tell (.signal s) => seen s = false
  | _ => True

variable {seen : Signal → Bool}

/-- What is looked for in a trace, effect by effect. -/
private theorem glimpses_cons (p : Nat × Effect) (t : List (Nat × Effect)) :
    glimpses seen (p :: t) = glimpses seen [p] ++ glimpses seen t := by
  rw [glimpses, glimpses, glimpses, ← List.singleton_append, sights_append, List.filter_append]

/-- Nothing is seen of an effect that is hidden. -/
private theorem Effect.Hidden.glimpses_eq {e : Effect} (he : e.Hidden seen) (now : Nat) :
    glimpses seen [(now, e)] = [] := by
  cases e with
  | invoke | conclude => exact he.elim
  | tell notice =>
    cases notice with
    | line l => rfl
    | signal s =>
      have hseen : seen s = false := he
      simp [glimpses, sights, Effect.sight, Sight.shown, hseen]
  | _ => rfl

/-- Log lines are not seen. -/
private theorem Effect.hidden_log (level : Level) (message : String)
    (fields : List (String × LogValue)) :
    ∀ notice ∈ [Notice.log level message fields], Effect.Hidden seen (.tell notice) :=
  List.forall_mem_singleton.2 trivial

/-! ## Scenes of two calls -/

namespace World

variable (w : World)

/-- A breaker takes no time. -/
theorem now_stepBreaker (i : Nat) (after : Breaker → Breaker) (notices : Breaker → List Notice) :
    (w.stepBreaker i after notices).now = w.now := by
  unfold stepBreaker
  split <;> rfl

/-- To look for a breaker takes no time. -/
private theorem now_findBreaker (key : String) (policy : BreakerPolicy) :
    (w.findBreaker key policy).2.now = w.now := by
  -- Making a breaker writes a line and enters it, and neither moves the time.
  have hat : (w.breakerAt key key policy).2.now = w.now := by
    unfold breakerAt
    split
    · rfl
    · split <;> rfl
  unfold findBreaker
  split
  · rfl
  -- The policy that is kept may be logged as well.
  · generalize w.breakerAt key key policy = found at hat ⊢
    obtain ⟨answer | i, w'⟩ := found
    · exact hat
    · dsimp only
      split <;> exact hat

/-- To look for a bulkhead takes no time. -/
private theorem now_findBulkhead (key : String) (policy : BulkheadPolicy) :
    (w.findBulkhead key policy).2.now = w.now := by
  -- The bulkhead that is found or made is checked against the policy afterwards, so the time is
  -- compared in front of that check first.
  have hat : (w.bulkheadAt key key policy).2.now = w.now := by
    unfold bulkheadAt
    split
    · rfl
    · split <;> rfl
  unfold findBulkhead
  split
  · rfl
  · generalize w.bulkheadAt key key policy = found at hat ⊢
    obtain ⟨answer | i, w'⟩ := found
    · exact hat
    · dsimp only
      split <;> exact hat

end World

namespace Scene

/-- No effect takes time. -/
theorem now_perform (s : Scene) (e : Effect) : (s.perform e).2.world.now = s.world.now := by
  cases e with
  | clock | invoke | conclude | tell => rfl
  | findBreaker key policy => exact s.world.now_findBreaker key policy
  | findBulkhead key policy => exact s.world.now_findBulkhead key policy
  | acquire i | settle i => exact s.world.now_stepBreaker i _ _
  | enter i | leave i => exact World.now_stepBulkhead _ _

/-- An effect of which nothing is seen leaves the record of the call alone. -/
theorem record_perform_of_hidden {e : Effect} (he : e.Hidden seen) (s : Scene) :
    (s.perform e).2.record = s.record := by
  cases e with
  | invoke | conclude => exact he.elim
  | _ => rfl

/-- Two calls have made the same attempts, and it is the same time. -/
structure Abreast (s s' : Scene) : Prop where
  record : s.record = s'.record
  now : s.world.now = s'.world.now

namespace Abreast

variable {s s' : Scene} {e : Effect}

/-- An effect that leaves the layers alone is answered alike. -/
theorem plain (h : s.Abreast s') (he : e.Plain) :
    (s.perform e).1 = (s'.perform e).1 ∧ (s.perform e).2.Abreast (s'.perform e).2 := by
  obtain ⟨hrecord, hnow⟩ := h
  cases e with
  | clock => exact ⟨hnow, hrecord, hnow⟩
  | invoke =>
    exact ⟨congrArg (·.starts.size) hrecord, by simp only [perform, hrecord, hnow], hnow⟩
  | conclude => exact ⟨rfl, by simp [perform, hrecord], hnow⟩
  | tell notice => exact ⟨rfl, hrecord, hnow⟩
  | _ => exact he.elim

/-- The first call may do something of which nothing is seen. -/
theorem left (h : s.Abreast s') (he : e.Hidden seen) : (s.perform e).2.Abreast s' :=
  ⟨(record_perform_of_hidden he s).trans h.record, (now_perform s e).trans h.now⟩

/-- So may the second one. -/
theorem right (h : s.Abreast s') (he : e.Hidden seen) : s.Abreast (s'.perform e).2 :=
  ⟨h.record.trans (record_perform_of_hidden he s').symm, h.now.trans (now_perform s' e).symm⟩

end Abreast

end Scene

/-! ## Trees -/

namespace Activity

variable {β α α' γ γ' : Type}

/-- To return what was returned adds nothing. -/
private theorem bind_pure (x : Activity β α) : x.bind .pure = x := by
  induction x with
  | ended ending => cases ending <;> rfl
  | act e next ih => exact congrArg (Activity.act e) (funext ih)
  | wait w next ih => exact congrArg (Activity.wait w) (funext ih)

/-- Two activities of calls that have made a number of attempts so far come to the same. What they
return is related by `R`, which is told the number of attempts made by then. -/
inductive Agrees (seen : Signal → Bool) (R : Nat → α → α' → Prop) :
    Nat → Activity β α → Activity β α' → Prop where
  | returned {n : Nat} {a : α} {a' : α'} (h : R n a a') :
      Agrees seen R n (.ended (.returned a)) (.ended (.returned a'))
  | panicked {n : Nat} (message : String) :
      Agrees seen R n (.ended (.panicked message)) (.ended (.panicked message))
  /-- Both begin their next attempt. -/
  | invoke {n : Nat} {next : Nat → Activity β α} {next' : Nat → Activity β α'}
      (h : Agrees seen R (n + 1) (next n) (next' n)) :
      Agrees seen R n (.act .invoke next) (.act .invoke next')
  /-- Both do the same, and the layers have no part in it. -/
  | act {n : Nat} {e : Effect} {next : e.Answer → Activity β α} {next' : e.Answer → Activity β α'}
      (he : e.Plain) (hinvoke : e ≠ .invoke) (h : ∀ a, Agrees seen R n (next a) (next' a)) :
      Agrees seen R n (.act e next) (.act e next')
  | left {n : Nat} {e : Effect} {next : e.Answer → Activity β α} {y : Activity β α'}
      (he : e.Hidden seen) (h : ∀ a, Agrees seen R n (next a) y) : Agrees seen R n (.act e next) y
  | right {n : Nat} {e : Effect} {x : Activity β α} {next : e.Answer → Activity β α'}
      (he : e.Hidden seen) (h : ∀ a, Agrees seen R n x (next a)) : Agrees seen R n x (.act e next)
  /-- Both wait in the same way, apart from what they hold meanwhile. -/
  | wait {n : Nat} {w : Wait} {leaves : List Nat} {next : Wake β w.limit w.gated → Activity β α}
      {next' : Wake β w.limit w.gated → Activity β α'}
      (h : ∀ wake, Agrees seen R n (next wake) (next' wake)) :
      Agrees seen R n (.wait w next) (.wait { w with leaves } next')

namespace Agrees

variable {R : Nat → α → α' → Prop} {S : Nat → γ → γ' → Prop} {n : Nat} {x : Activity β α}
  {y : Activity β α'}

/-- What follows two activities that come to the same comes to the same if it does for every pair of
related values. -/
theorem bind {k : α → Activity β γ} {k' : α' → Activity β γ'} (hxy : x.Agrees seen R n y)
    (hk : ∀ m a a', R m a a' → (k a).Agrees seen S m (k' a')) :
    (x.bind k).Agrees seen S n (y.bind k') := by
  -- Induction on the derivation: each step of either side stands in front of the continuation.
  induction hxy with
  | returned h => exact hk _ _ _ h
  | panicked message => exact .panicked message
  | invoke _ ih => exact .invoke ih
  | act he hinvoke _ ih => exact .act he hinvoke ih
  | left he _ ih => exact .left he ih
  | right he _ ih => exact .right he ih
  | wait _ ih => exact .wait ih

/-- What one of the two does after all else, while the other one has ended. -/
theorem bind_left {S : Nat → γ → α' → Prop} {k : α → Activity β γ} (hxy : x.Agrees seen R n y)
    (hk : ∀ m a a', R m a a' → (k a).Agrees seen S m (.ended (.returned a'))) :
    (x.bind k).Agrees seen S n y := by
  rw [← bind_pure y]
  exact hxy.bind hk

/-- One of the two may change what it returns. -/
theorem map_left {S : Nat → γ → α' → Prop} {f : α → γ} (hxy : x.Agrees seen R n y)
    (hf : ∀ m a a', R m a a' → S m (f a) a') : (x.map f).Agrees seen S n y :=
  hxy.bind_left fun m a a' h => .returned (hf m a a' h)

/-- One of the two tells something of which nothing is seen. -/
theorem telling_left {notices : List Notice} (hnotices : ∀ notice ∈ notices,
    Effect.Hidden seen (.tell notice)) (hxy : x.Agrees seen R n y) :
    (telling notices x).Agrees seen R n y := by
  induction notices with
  | nil => exact hxy
  | cons notice notices ih =>
    exact .left (hnotices _ List.mem_cons_self) fun _ =>
      ih fun m hm => hnotices m (List.mem_cons_of_mem _ hm)

/-- The other one tells something of which nothing is seen. -/
private theorem telling_right {notices : List Notice} (hnotices : ∀ notice ∈ notices,
    Effect.Hidden seen (.tell notice)) (hxy : x.Agrees seen R n y) :
    x.Agrees seen R n (telling notices y) := by
  induction notices with
  | nil => exact hxy
  | cons notice notices ih =>
    exact .right (hnotices _ List.mem_cons_self) fun _ =>
      ih fun m hm => hnotices m (List.mem_cons_of_mem _ hm)

/-- Both tell the same. -/
theorem telling (notices : List Notice) (hxy : x.Agrees seen R n y) :
    (Activity.telling notices x).Agrees seen R n (Activity.telling notices y) := by
  induction notices with
  | nil => exact hxy
  | cons notice notices ih => exact .act trivial nofun fun _ => ih

/-- Each writes a log line of its own. -/
theorem logging {level level' : Level} {message message' : String}
    {fields fields' : List (String × LogValue)} (hxy : x.Agrees seen R n y) :
    (Activity.telling [.log level message fields] x).Agrees seen R n
      (Activity.telling [.log level' message' fields'] y) :=
  (hxy.telling_right (Effect.hidden_log _ _ _)).telling_left (Effect.hidden_log _ _ _)

/-- Both sleep. -/
theorem sleep (running : Bool) (ms : Nat) : (Activity.sleep running ms : Activity β Unit).Agrees
    seen (fun m _ _ => m = n) n (Activity.sleep running ms : Activity β Unit) := by
  unfold Activity.sleep
  split
  · exact .wait fun _ => .returned rfl
  · exact .returned rfl

/-- One of the two gives a permit back at its end, or if it is dropped. -/
theorem holding_left (i : Nat) (hxy : x.Agrees seen R n y) :
    (x.holding i).Agrees seen R n y := by
  induction hxy with
  | returned h => exact .left trivial fun _ => .returned h
  | panicked message => exact .left trivial fun _ => .panicked message
  | invoke _ ih => exact .invoke ih
  | act he hinvoke _ ih => exact .act he hinvoke ih
  | left he _ ih => exact .left he ih
  | right he _ ih => exact .right he ih
  -- The comparison of waits does not look at what is held.
  | @wait n w leaves next next' _ ih => exact .wait (w := w.leaving i) ih

/-- An activity that leaves the layers alone comes to the same in any world. -/
theorem refl {P : α → Prop} {x : Activity β α} (hx : x.Meets Effect.Plain P) (n : Nat) :
    x.Agrees seen (fun _ => Eq) n x := by
  induction hx generalizing n with
  | returned h => exact .returned rfl
  | panicked message => exact .panicked message
  | @act e next he _ ih =>
    -- An attempt is counted by the comparison, so it has a step of its own there.
    by_cases hinvoke : e = .invoke
    · subst hinvoke
      exact .invoke (ih n (n + 1))
    · exact .act he hinvoke fun a => ih a n
  | wait _ _ ih => exact .wait fun wake => ih wake n

end Agrees

/-- The activity `x` in the scene `s` becomes `y` in the scene `s'` by effects of which nothing is
seen. -/
inductive ReachesUnseen (seen : Signal → Bool) :
    Activity β α → Scene → Activity β α → Scene → Prop where
  | refl (x : Activity β α) (s : Scene) : ReachesUnseen seen x s x s
  | act {e : Effect} {next : e.Answer → Activity β α} {y : Activity β α} {s s' : Scene}
      (he : e.Hidden seen) (h : ReachesUnseen seen (next (s.perform e).1) (s.perform e).2 y s') :
      ReachesUnseen seen (.act e next) s y s'

namespace ReachesUnseen

variable {x y z : Activity β α} {s s' s'' : Scene}

/-- One stretch after another. -/
theorem trans (h : x.ReachesUnseen seen s y s') (h' : y.ReachesUnseen seen s' z s'') :
    x.ReachesUnseen seen s z s'' := by
  induction h with
  | refl => exact h'
  | act he _ ih => exact .act he (ih h')

/-- An effect of which nothing is seen, with its answer known. -/
theorem answered {e : Effect} {next : e.Answer → Activity β α} {a : e.Answer}
    (hhidden : e.Hidden seen) (he : (s.perform e).1 = a)
    (h : (next a).ReachesUnseen seen (s.perform e).2 y s') :
    (Activity.act e next).ReachesUnseen seen s y s' := by
  subst he
  exact .act hhidden h

/-- What an activity reaches, it reaches inside a longer one. -/
theorem bind (k : α → Activity β γ) (h : x.ReachesUnseen seen s y s') :
    (x.bind k).ReachesUnseen seen s (y.bind k) s' := by
  induction h with
  | refl => exact .refl _ _
  | act he _ ih => exact .act he ih

/-- What an activity reaches, it reaches while it holds a permit. -/
theorem holding (i : Nat) (h : x.ReachesUnseen seen s y s') :
    (x.holding i).ReachesUnseen seen s (y.holding i) s' := by
  induction h with
  | refl => exact .refl _ _
  | act he _ ih => exact .act he ih

/-- What an activity reaches of which nothing can be seen. -/
theorem of_reaches {P : α → Prop} (h : x.Reaches s y s') (hx : x.Meets (Effect.Hidden seen) P) :
    x.ReachesUnseen seen s y s' := by
  induction h with
  | refl => exact .refl _ _
  | act _ ih =>
    cases hx with
    | act he hnext => exact .act he (ih (hnext _))

/-- Unseen or not, it is reached. -/
theorem reaches (h : x.ReachesUnseen seen s y s') : x.Reaches s y s' := by
  induction h with
  | refl => exact .refl _ _
  | act _ _ ih => exact .act ih

/-- No attempt is made, and no time passes. -/
theorem abreast (h : x.ReachesUnseen seen s y s') : s'.Abreast s := by
  induction h with
  | refl => exact ⟨rfl, rfl⟩
  | act he _ ih =>
    -- Each hidden effect keeps record and time, so the first scene is abreast of the last.
    exact ⟨ih.record.trans (Scene.record_perform_of_hidden he _),
      ih.now.trans (Scene.now_perform _ _)⟩

end ReachesUnseen

/-- The activity `x` of a call in the scene `s` comes to the same as `y`, once it has done what it
does at first. -/
def ComesTo (seen : Signal → Bool) (x : Activity β α) (s : Scene) (y : Activity β α) : Prop :=
  ∃ z s', x.ReachesUnseen seen s z s' ∧ z.Agrees seen (fun _ => Eq) s.record.starts.size y

namespace ComesTo

variable {x y z : Activity β α} {s s' : Scene}

/-- Nothing has to be done at first. -/
theorem of_agrees (h : x.Agrees seen (fun _ => Eq) s.record.starts.size y) :
    x.ComesTo seen s y :=
  ⟨x, s, .refl _ _, h⟩

/-- What is done at first may be done in two stretches. -/
theorem of_reaches (hxz : x.ReachesUnseen seen s z s') (h : z.ComesTo seen s' y) :
    x.ComesTo seen s y := by
  obtain ⟨z', s'', hz, hagrees⟩ := h
  exact ⟨z', s'', hxz.trans hz, hxz.abreast.record ▸ hagrees⟩

/-- A call that goes on in the same way after it has come to the same. -/
theorem bind {k : α → Activity β γ} (hk : ∀ n a, (k a).Agrees seen (fun _ => Eq) n (k a))
    (h : x.ComesTo seen s y) : (x.bind k).ComesTo seen s (y.bind k) := by
  obtain ⟨z, s', hz, hagrees⟩ := h
  exact ⟨_, s', hz.bind k, hagrees.bind fun m a a' heq => heq ▸ hk m a⟩

end ComesTo

end Activity

/-! ## Calls in the foreground -/

namespace Floor

variable {β ρ : Type}

/-- The effects of an activity in the foreground, each with its time. -/
def trace : Activity β ρ → Record → Floor β ρ → List (Nat × Effect)
  | .ended _, _, _ => []
  | .act e next, record, f =>
    let (answer, s) := Scene.perform ⟨f.world, record⟩ e
    (f.world.now, e) :: trace (next answer) s.record { f with world := s.world }
  | .wait w next, record, f =>
    match h : w.limit with
    | some ms => trace (next (.elapsed ms h)) record (f.runUpTo (f.world.now + ms))
    | none => []

end Floor

/-- What an observer can tell of a call in the foreground. -/
structure Course (ρ : Type) where
  ending : Option (Ending ρ)
  record : Record
  /-- When it ended. -/
  now : Nat
  sights : List (Nat × Sight)

namespace Floor

variable {β ρ : Type} {f g : Floor β ρ} {record : Record}

/-- The course of an activity in the foreground. -/
def course (seen : Signal → Bool) (x : Activity β ρ) (record : Record) (f : Floor β ρ) :
    Course ρ :=
  let (ending, after, g) := foreground x record f
  ⟨ending, after, g.world.now, glimpses seen (trace x record f)⟩

/-- The course of an effect and of what comes after it. -/
private theorem course_act (e : Effect) (next : e.Answer → Activity β ρ) (record : Record)
    (f : Floor β ρ) :
    let s : Scene := ⟨f.world, record⟩
    let c := course seen (next (s.perform e).1) (s.perform e).2.record
      { f with world := (s.perform e).2.world }
    course seen (.act e next) record f =
      { c with sights := glimpses seen [(f.world.now, e)] ++ c.sights } := by
  intro s c
  simp only [course, foreground, trace, c]
  rw [glimpses_cons]

/-- An effect of which nothing is seen does not show in the course. -/
private theorem course_act_of_hidden {e : Effect} (he : e.Hidden seen)
    (next : e.Answer → Activity β ρ) (record : Record) (f : Floor β ρ) :
    let s : Scene := ⟨f.world, record⟩
    course seen (.act e next) record f = course seen (next (s.perform e).1)
      (s.perform e).2.record { f with world := (s.perform e).2.world } := by
  intro s
  rw [course_act, he.glimpses_eq, List.nil_append]

/-- A wait in the foreground lets the floor run until its time is up. -/
theorem foreground_wait {w : Wait} {ms : Nat} (h : w.limit = some ms)
    (next : Wake β w.limit w.gated → Activity β ρ) (record : Record) (f : Floor β ρ) :
    foreground (.wait w next) record f =
      foreground (next (.elapsed ms h)) record (f.runUpTo (f.world.now + ms)) := by
  -- The end of the wait is found again by the match, so it is the same number.
  rw [foreground]
  split
  · next ms' h' =>
    obtain rfl : ms = ms' := Option.some.inj (h.symm.trans h')
    rfl
  · next h' => simp [h] at h'

/-- A wait in the foreground for something outside is never over. -/
theorem foreground_stuck {w : Wait} (h : w.limit = none)
    (next : Wake β w.limit w.gated → Activity β ρ) (record : Record) (f : Floor β ρ) :
    foreground (.wait w next) record f = (none, record, f) := by
  rw [foreground]
  split
  · next ms h' => simp [h] at h'
  · rfl

/-- A wait has no effect of its own. -/
private theorem trace_wait {w : Wait} {ms : Nat} (h : w.limit = some ms)
    (next : Wake β w.limit w.gated → Activity β ρ) (record : Record) (f : Floor β ρ) :
    trace (.wait w next) record f =
      trace (next (.elapsed ms h)) record (f.runUpTo (f.world.now + ms)) := by
  rw [trace]
  split
  · next ms' h' =>
    obtain rfl : ms = ms' := Option.some.inj (h.symm.trans h')
    rfl
  · next h' => simp [h] at h'

/-- The course goes on after a wait, on a floor that has gone on as well. -/
private theorem course_wait {w : Wait} {ms : Nat} (h : w.limit = some ms)
    (next : Wake β w.limit w.gated → Activity β ρ) (record : Record) (f : Floor β ρ) :
    course seen (.wait w next) record f =
      course seen (next (.elapsed ms h)) record (f.runUpTo (f.world.now + ms)) := by
  rw [course, foreground_wait h, trace_wait h]
  rfl

/-- The course ends at a wait for something outside. -/
private theorem course_stuck {w : Wait} (h : w.limit = none)
    (next : Wake β w.limit w.gated → Activity β ρ) (record : Record) (f : Floor β ρ) :
    course seen (.wait w next) record f = ⟨none, record, f.world.now, []⟩ := by
  have htrace : trace (.wait w next) record f = [] := by
    rw [trace]
    split
    · next ms h' => simp [h] at h'
    · rfl
  rw [course, foreground_stuck h, htrace]
  rfl

/-- The report on a call tells the course of it. -/
theorem call_report (seen : Signal → Bool) (x : Activity β ρ) (f : Floor β ρ) :
    let c := course seen x .empty f
    (f.call x).1 = c.record.report f.world.now c.now c.ending := rfl

end Floor

namespace Activity

variable {β ρ : Type} {n : Nat} {x y : Activity β ρ}

open Floor (course)

/-- Two calls that come to the same take the same course on two floors, whatever goes on in the
background. -/
theorem Agrees.course_eq (h : x.Agrees seen (fun _ => Eq) n y) {record : Record}
    (hrecord : record.starts.size = n) {f g : Floor β ρ} (hnow : f.world.now = g.world.now) :
    course seen x record f = course seen y record g := by
  -- The floors are free in the induction: after each wait others have gone on there.
  induction h generalizing record f g with
  | returned h =>
    subst h
    simp [course, Floor.foreground, Floor.trace, hnow]
  | panicked message => simp [course, Floor.foreground, Floor.trace, hnow]
  | @invoke n next next' _ ih =>
    -- Both are answered with the number of attempts made, which the record keeps.
    subst hrecord
    let after : Record := { record with starts := record.starts.push f.world.now }
    have hrest : course seen (next record.starts.size) after f =
      course seen (next' record.starts.size) after g := ih (by simp [after]) hnow
    refine (Floor.course_act .invoke next record f).trans (Eq.trans ?_
      (Floor.course_act .invoke next' record g).symm)
    simp only [Scene.perform, ← hnow, hrest, after]
  | @act n e next next' he hinvoke _ ih =>
    -- The worlds differ, but a plain effect reads nothing of them except the time.
    have hscenes : Scene.Abreast ⟨f.world, record⟩ ⟨g.world, record⟩ := ⟨rfl, hnow⟩
    obtain ⟨hanswer, hafter⟩ := hscenes.plain he
    have hsize : (Scene.perform ⟨f.world, record⟩ e).2.record.starts.size = n := by
      rw [Scene.starts_perform hinvoke]
      exact hrecord
    rw [Floor.course_act, Floor.course_act, hnow, ← hanswer, ← hafter.record]
    rw [ih _ hsize (g := { g with world := (Scene.perform ⟨g.world, record⟩ e).2.world })
      hafter.now]
  | left he _ ih =>
    rw [Floor.course_act_of_hidden he, Scene.record_perform_of_hidden he]
    exact ih _ hrecord ((Scene.now_perform _ _).trans hnow)
  | right he _ ih =>
    rw [Floor.course_act_of_hidden he, Scene.record_perform_of_hidden he]
    exact ih _ hrecord (hnow.trans (Scene.now_perform ⟨g.world, record⟩ _).symm)
  | @wait n w leaves next next' _ ih =>
    -- Both waits have the same end; only what they hold differs.
    rcases Option.eq_none_or_eq_some w.limit with hlimit | ⟨ms, hlimit⟩
    · rw [Floor.course_stuck hlimit, Floor.course_stuck (w := { w with leaves }) hlimit, hnow]
    · rw [Floor.course_wait hlimit, Floor.course_wait (w := { w with leaves }) hlimit]
      refine ih _ hrecord ?_
      show f.world.now + ms = g.world.now + ms
      rw [hnow]

/-- A run that leaves the layers alone takes the same course on a floor, whatever goes on there. -/
theorem Runs.course_eq {P : ρ → Prop} {s s' : Scene} {t : List (Nat × Effect)}
    {r : Option (Ending ρ)} (h : x.Runs s t r s') (hx : x.Meets Effect.Plain P) {f : Floor β ρ}
    (hnow : s.world.now = f.world.now) :
    course seen x s.record f = ⟨r, s'.record, s'.world.now, glimpses seen t⟩ := by
  induction h generalizing f with
  | ended ending s => simp [course, Floor.foreground, Floor.trace, hnow]
  | @act e next s s' t r _ ih =>
    cases hx with
    | act he hnext =>
    have hscenes : s.Abreast ⟨f.world, s.record⟩ := ⟨rfl, hnow⟩
    obtain ⟨hanswer, hafter⟩ := hscenes.plain he
    -- The contract of the rest, so that the induction goes on for the answer given.
    have hrest := ih (hnext _)
      (f := { f with world := (Scene.perform ⟨f.world, s.record⟩ e).2.world }) hafter.now
    rw [Floor.course_act, ← hanswer, ← hafter.record, hrest, glimpses_cons _ t, hnow]
  | @elapsed w next s s' ms t r hms _ ih =>
    cases hx with
    | wait _ hnext =>
    rw [Floor.course_wait hms]
    refine ih (hnext _) ?_
    show s.world.now + ms = f.world.now + ms
    rw [hnow]
  | stuck s hnone => rw [Floor.course_stuck hnone, hnow]; rfl

/-- The course of a call goes on from what it has reached. -/
theorem ReachesUnseen.course_eq {s s' : Scene} (h : x.ReachesUnseen seen s y s')
    (f : Floor β ρ) : course seen x s.record { f with world := s.world } =
      course seen y s'.record { f with world := s'.world } := by
  induction h with
  | refl => rfl
  | act he _ ih =>
    rw [Floor.course_act_of_hidden he]
    exact ih

/-- Two calls that come to the same take the same course. -/
theorem ComesTo.course_eq {s : Scene} (h : x.ComesTo seen s y) {f g : Floor β ρ}
    (hnow : s.world.now = g.world.now) :
    course seen x s.record { f with world := s.world } = course seen y s.record g := by
  obtain ⟨z, s', hz, hagrees⟩ := h
  rw [hz.course_eq, hz.abreast.record]
  exact hagrees.course_eq rfl (hz.abreast.now.trans hnow)

end Activity

end Safeguard
