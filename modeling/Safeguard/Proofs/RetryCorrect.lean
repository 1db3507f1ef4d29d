import Mathlib.Order.Nat
import Safeguard.Proofs.ActivityContract

/-!
# The retry loop

A plan says of each attempt how long it takes and how it ends. This file says what a run of the
retry layer makes of a plan: which attempt is the last, when each attempt begins, what is told
before it, and what the run ends with. The loop is followed by induction on the attempts that are
left, from an attempt of any number on.

## Key results

- `Trial.runs_operation`: one attempt of a plan
- `runs_last`, `runs_again`: the loop at its last attempt and at any other one
- `runs_attempts`: the loop from any attempt on
- `run_follows_plan`: the retry layer as a function of the plan
-/

namespace Safeguard

/-- One attempt of a plan: how long it takes and how it ends. -/
structure Trial (ε γ : Type) where
  delay : Duration
  ending : Ending (Except ε γ)

namespace Trial

variable {β γ ε : Type}

/-- The operation whose attempts follow a plan, one after another. -/
def operation (plan : Nat → Trial ε γ) : Activity β (Except ε γ) :=
  .act .invoke fun (n : Nat) =>
    (Activity.sleep true (plan n).delay.sleepMillis).bind fun _ =>
      .act .conclude fun _ => .ended (plan n).ending

/-- A script without gates plays a plan. -/
theorem operation_eq_of_script {s : Script β} {plan : Nat → Trial OperationError β}
    (h : ∀ n, ∃ outcome, s.attempt n = .timed (plan n).delay outcome ∧
      outcome.ending = (plan n).ending) : s.operation = operation plan := by
  unfold Script.operation operation
  congr 1
  funext n
  obtain ⟨outcome, hattempt, hending⟩ := h n
  simp only [hattempt, Script.play, Script.conclude, hending]

/-- Attempts that follow a plan leave the layers alone. -/
theorem meets_operation (plan : Nat → Trial ε γ) :
    (operation plan : Activity β _).Meets Effect.Plain fun _ => True := by
  refine .act trivial fun n => (Activity.Meets.sleep _ _).bind fun _ _ => .act trivial fun _ => ?_
  cases (plan n).ending with
  | returned => exact .returned trivial
  | panicked => exact .panicked _

/-- The scene after an attempt. -/
def after (m : Trial ε γ) (s : Scene) : Scene :=
  { world := s.world.after m.delay.sleepMillis
    record := ⟨s.record.starts.push s.world.now, s.record.finished + 1⟩ }

/-- An attempt begins, takes its time and ends as planned. -/
theorem runs_operation (plan : Nat → Trial ε γ) (s : Scene) {k : Nat}
    (hk : s.record.starts.size = k) :
    (operation plan : Activity β (Except ε γ)).Runs s
      [(s.world.now, .invoke), (s.world.now + (plan k).delay.sleepMillis, .conclude)]
      (some (plan k).ending) ((plan k).after s) := by
  subst hk
  refine .act ?_
  exact (Activity.Runs.sleep true _ _).bind (.act (.ended _ _))

end Trial

namespace Retry

open Activity (Runs)

variable {β γ ε : Type} (name : String) (policy : RetryPolicy) (plan : Nat → Trial ε γ)

/-! ## The course of a run -/

/-- The milliseconds from the beginning of a run to its attempt `k`, counted from zero. -/
def offset : Nat → Nat
  | 0 => 0
  | k + 1 =>
    offset k + (plan k).delay.sleepMillis + (policy.delayFor (.ofNat (k + 1))).sleepMillis

/-- What an observer sees of attempt `k`, counted from zero, other than the first, in a run that
began at time `began`. -/
def retrySights (began k : Nat) : List (Nat × Sight) :=
  [(began + offset policy plan k, .signal (.retryAttempt name (.ofNat (k + 1)))),
    (began + offset policy plan k, .attempt)]

variable {name policy plan}

theorem attemptTimes_cons_attempt (now : Nat) (l : List (Nat × Sight)) :
    attemptTimes ((now, .attempt) :: l) = now :: attemptTimes l :=
  rfl

/-- The numbers of one or more attempts are zero and those of the others. -/
private theorem map_range_succ {α : Type} {f : Nat → α} (n : Nat) (hone : 1 ≤ n) :
    (List.range n).map f = f 0 :: (List.range' 1 (n - 1)).map f := by
  obtain ⟨more, rfl⟩ : ∃ more, n = more + 1 := ⟨n - 1, by omega⟩
  rw [List.range_eq_range', List.range'_succ]
  rfl

/-- The signals of a run are the retries, by their numbers. -/
private theorem toldSignals_retrySights (began start more : Nat) :
    toldSignals ((List.range' start more).flatMap (retrySights name policy plan began)) =
      (List.range' (start + 1) more).map fun i => .retryAttempt name (.ofNat i) := by
  -- By induction on the number of attempts, from any first one on.
  induction more generalizing start with
  | zero => rfl
  | succ more ih =>
    rw [List.range'_succ, List.flatMap_cons, toldSignals_append, ih, List.range'_succ,
      List.map_cons]
    rfl

/-- The attempts of a run begin at their offsets. -/
theorem attemptTimes_retrySights (began start more : Nat) :
    attemptTimes ((List.range' start more).flatMap (retrySights name policy plan began)) =
      (List.range' start more).map fun k => began + offset policy plan k := by
  induction more generalizing start with
  | zero => rfl
  | succ more ih =>
    rw [List.range'_succ, List.flatMap_cons, attemptTimes_append, ih, List.map_cons]
    rfl

/-! ## The end of a run -/

/-- An activity that returns at once, and nothing of it is seen. -/
def ReturnsUnseen {α : Type} (x : Activity β α) (s : Scene) (a : α) : Prop :=
  ∃ t w, x.Runs s t (some (.returned a)) ⟨w, s.record⟩ ∧ sights t = [] ∧ w.now = s.world.now

/-- A log line is not seen. -/
private theorem returnsUnseen_log (s : Scene) (level : Level) (message : String)
    (fields : List (String × LogValue)) (r : Except (Fault ε) γ) :
    ReturnsUnseen (.telling [.log level message fields] (.pure r) : Activity β _) s r :=
  ⟨_, _, Runs.telling _ (.ended _ _), rfl, rfl⟩

/-- A value is returned, with a log line if it came after retries. -/
private theorem returnsUnseen_success (s : Scene) (made : UInt32) (v : γ) :
    ReturnsUnseen (success made v : Activity β (Except (Fault ε) γ)) s (.ok v) := by
  unfold success
  split
  · exact ⟨[], s.world, .ended _ _, rfl, rfl⟩
  · exact returnsUnseen_log s _ _ _ _

/-! ## One attempt of the loop -/

variable [Seen ε]

variable (policy plan) in
/-- Attempt number `i`, counted from one, is not followed by another: it brings a value, it fails
with an error that the policy refuses, or the attempts are used up. A panic stops everything. -/
def StopsAt (i : Nat) : Prop :=
  match (plan (i - 1)).ending with
  | .returned (.ok _) => True
  | .returned (.error e) =>
    policy.accepts (Seen.failure e) = false ∨ i = policy.maxAttempts.toNat
  | .panicked _ => True

variable (name policy) in
/-- What a run ends with when its last attempt ends so. -/
def verdict : Ending (Except ε γ) → Ending (Except (Fault ε) γ)
  | .returned (.ok v) => .returned (.ok v)
  | .returned (.error e) =>
    if policy.accepts (Seen.failure e) then
      .returned (.error (.retryExhausted name policy.maxAttempts (.operation e)))
    else .returned (.error (.operation e))
  | .panicked message => .panicked message

/-- What follows attempt number `made + 1` when `left` more are permitted. -/
def following (name : String) (policy : RetryPolicy) (operation : Activity β (Except ε γ))
    (left : Nat) (made : UInt32) : Except ε γ → Activity β (Except (Fault ε) γ)
  | .ok v => success made v
  | .error e =>
    if policy.accepts (Seen.failure e) then
      match left with
      | 0 => exhaust name (made + 1) e
      | left + 1 =>
        again name policy (made + 1) e (attempts name policy operation left (made + 1))
    else refuse (made + 1) e

/-- The loop before an attempt, however many may follow it. -/
theorem attempts_eq (operation : Activity β (Except ε γ)) (left : Nat) (made : UInt32) :
    attempts name policy operation left made =
      operation.bind (following name policy operation left made) := by
  cases left <;> rfl

theorem ofNat_add_one (k : Nat) : UInt32.ofNat k + 1 = UInt32.ofNat (k + 1) := by
  rw [UInt32.ofNat_add]
  rfl

/-- An attempt is seen when it begins, and its end is not. -/
private theorem sights_attempt (now later : Nat) (t : List (Nat × Effect)) :
    sights ([(now, .invoke), (later, .conclude)] ++ t) = (now, .attempt) :: sights t :=
  rfl

variable (name) in
/-- After the last attempt nothing more is seen; the budget decides between the two failures. -/
private theorem returnsUnseen_following {left k : Nat} (operation : Activity β (Except ε γ))
    (s : Scene) (hbudget : k + left + 1 = policy.maxAttempts.toNat) {result : Except ε γ}
    (hend : (plan k).ending = .returned result) (hstop : StopsAt policy plan (k + 1)) :
    ∃ r, verdict name policy (.returned result) = .returned r ∧
      ReturnsUnseen (following name policy operation left (.ofNat k) result) s r := by
  simp only [StopsAt, Nat.add_sub_cancel, hend] at hstop
  cases result with
  | ok v => exact ⟨.ok v, rfl, returnsUnseen_success _ _ _⟩
  | error e =>
    -- A failure that the policy refuses is returned as it is, whatever the budget.
    cases haccepts : policy.accepts (Seen.failure e) with
    | false =>
      refine ⟨.error (.operation e), by simp [verdict, haccepts], ?_⟩
      simp only [following, haccepts, Bool.false_eq_true, if_false]
      exact returnsUnseen_log _ _ _ _ _
    | true =>
      have hmax : k + 1 = policy.maxAttempts.toNat := by simpa [haccepts] using hstop
      obtain rfl : left = 0 := by omega
      refine ⟨.error (.retryExhausted name policy.maxAttempts (.operation e)),
        by simp [verdict, haccepts], ?_⟩
      simp only [following, haccepts, if_true, ofNat_add_one, hmax, UInt32.ofNat_toNat]
      exact returnsUnseen_log _ _ _ _ _

variable (name) in
/-- The last attempt of a run: the run ends as it does. -/
theorem runs_last {left k : Nat} {s : Scene} (hsize : s.record.starts.size = k)
    (hbudget : k + left + 1 = policy.maxAttempts.toNat) (hstop : StopsAt policy plan (k + 1)) :
    ∃ t s', (attempts name policy (Trial.operation plan : Activity β _) left (.ofNat k)).Runs s t
        (some (verdict name policy (plan k).ending)) s' ∧
      sights t = [(s.world.now, .attempt)] ∧
      s'.world.now = s.world.now + (plan k).delay.sleepMillis ∧
      s'.record.finished = s.record.finished + 1 := by
  have hop := Trial.runs_operation (β := β) plan s hsize
  rw [attempts_eq]
  cases hend : (plan k).ending with
  | panicked message =>
    -- A panic goes through the loop.
    rw [hend] at hop
    exact ⟨_, _, hop.bind_panicked, rfl, rfl, rfl⟩
  | returned result =>
    rw [hend] at hop
    obtain ⟨r, hverdict, t, w, hruns, hsights, hnow⟩ := returnsUnseen_following name
      (Trial.operation plan : Activity β _) ((plan k).after s) hbudget hend hstop
    refine ⟨_, _, hverdict ▸ hop.bind hruns, ?_, hnow, rfl⟩
    rw [sights_attempt, hsights]

variable (name policy) in
/-- The way to the next attempt: its delay passes, and then it is told. -/
private theorem runs_of_again (attempt : UInt32) (e : ε) (s : Scene) :
    ∃ t s', s'.record = s.record ∧
      s'.world.now = s.world.now + (policy.delayFor attempt).sleepMillis ∧
      sights t = [(s'.world.now, .signal (.retryAttempt name (attempt + 1)))] ∧
      ∀ {next : Activity β (Except (Fault ε) γ)} {t' r s''}, next.Runs s' t' r s'' →
        (again name policy attempt e next).Runs s (t ++ t') r s'' := by
  -- The log line, the delay and the signal, with the scene after each of them.
  let line := Notice.log .debug "Operation failed, retrying"
    [("attempt", .number attempt.toNat), ("delay", .text (policy.delayFor attempt).text),
      ("error", .text (Cause.message e))]
  let signal := Notice.signal (.retryAttempt name (attempt + 1))
  let later := (s.world.tell [line]).after (policy.delayFor attempt).sleepMillis
  refine ⟨[(s.world.now, .tell line)] ++ [(later.now, .tell signal)],
    { s with world := later.tell [signal] }, rfl, rfl, rfl, fun {next t' r s''} hnext => ?_⟩
  rw [List.append_assoc]
  exact Runs.telling [line] ((Runs.sleep false _ _).bind (Runs.telling [signal] hnext))

variable (name) in
/-- Any other attempt of a run: the loop goes on with the next one after the delay. -/
theorem runs_again {left k : Nat} {s : Scene} (hsize : s.record.starts.size = k)
    (hbudget : k + left + 1 = policy.maxAttempts.toNat) (hgo : ¬ StopsAt policy plan (k + 1)) :
    ∃ left' t s', left = left' + 1 ∧ s'.record.starts.size = k + 1 ∧
      s'.world.now = s.world.now + (plan k).delay.sleepMillis +
        (policy.delayFor (.ofNat (k + 1))).sleepMillis ∧
      s'.record.finished = s.record.finished + 1 ∧
      sights t = [(s.world.now, .attempt),
        (s'.world.now, .signal (.retryAttempt name (.ofNat (k + 2))))] ∧
      ∀ {t' r s''}, (attempts name policy (Trial.operation plan : Activity β _) left'
          (.ofNat (k + 1))).Runs s' t' r s'' →
        (attempts name policy (Trial.operation plan : Activity β _) left (.ofNat k)).Runs s
          (t ++ t') r s'' := by
  have hop := Trial.runs_operation (β := β) plan s hsize
  cases hend : (plan k).ending with
  | panicked message => simp [StopsAt, hend] at hgo
  | returned result =>
    cases result with
    | ok v => simp [StopsAt, hend] at hgo
    | error e =>
      simp only [StopsAt, Nat.add_sub_cancel, hend, not_or, Bool.not_eq_false] at hgo
      obtain ⟨haccepts, hmax⟩ := hgo
      -- The budget is not used up, so one more attempt is permitted.
      obtain ⟨left', rfl⟩ : ∃ left', left = left' + 1 := ⟨left - 1, by omega⟩
      obtain ⟨t, s', hrecord, hnow, hsights, hruns⟩ :=
        runs_of_again (β := β) (γ := γ) name policy (.ofNat (k + 1)) e ((plan k).after s)
      rw [hend] at hop
      refine ⟨left', [(s.world.now, .invoke), (s.world.now + (plan k).delay.sleepMillis, .conclude)]
        ++ t, s', rfl, ?_, hnow, ?_, ?_, fun {t' r s''} hnext => ?_⟩
      · rw [hrecord]
        simpa [Trial.after] using hsize
      · rw [hrecord]
        rfl
      · rw [sights_attempt, hsights, ofNat_add_one]
      · rw [attempts_eq _ (left' + 1), List.append_assoc]
        refine hop.bind ?_
        simp only [following, haccepts, if_true, ofNat_add_one]
        exact hruns hnext

/-! ## The loop -/

variable (name) in
/-- A run from attempt `k` on, counted from zero, with `more` attempts after it. -/
theorem runs_attempts {left k more began : Nat} {s : Scene} (hsize : s.record.starts.size = k)
    (hbudget : k + left + 1 = policy.maxAttempts.toNat)
    (hstop : StopsAt policy plan (k + more + 1))
    (hgo : ∀ i, k < i → i ≤ k + more → ¬ StopsAt policy plan i)
    (hnow : s.world.now = began + offset policy plan k) :
    ∃ t s', (attempts name policy (Trial.operation plan : Activity β _) left (.ofNat k)).Runs s t
        (some (verdict name policy (plan (k + more)).ending)) s' ∧
      sights t = (began + offset policy plan k, .attempt) ::
        (List.range' (k + 1) more).flatMap (retrySights name policy plan began) ∧
      s'.world.now = began + offset policy plan (k + more) +
        (plan (k + more)).delay.sleepMillis ∧
      s'.record.finished = s.record.finished + more + 1 := by
  -- Induction on the attempts to come, with the number of the next one as the loop's invariant.
  induction more generalizing left k s with
  | zero =>
    obtain ⟨t, s', hruns, hsights, hnow', hfinished⟩ :=
      runs_last (β := β) name hsize hbudget hstop
    exact ⟨t, s', hruns, by simp [hsights, hnow], by rw [hnow', hnow]; rfl, hfinished⟩
  | succ more ih =>
    -- This attempt is not the last, and the next one begins at its offset.
    obtain ⟨left', t, s', rfl, hsize', hnow', hfinished, hsights, hruns⟩ :=
      runs_again (β := β) name hsize hbudget (hgo (k + 1) (by omega) (by omega))
    have hnext : s'.world.now = began + offset policy plan (k + 1) := by
      rw [hnow', hnow, offset]
      omega
    have hk : k + (more + 1) = k + 1 + more := by omega
    rw [hk] at hstop hgo ⊢
    have hbudget' : k + 1 + left' + 1 = policy.maxAttempts.toNat := by omega
    obtain ⟨t', s'', hruns', hsights', hnow'', hfinished'⟩ := ih hsize' hbudget' hstop
      (fun i hi hle => hgo i (by omega) hle) hnext
    refine ⟨t ++ t', s'', hruns hruns', ?_, hnow'', by omega⟩
    rw [sights_append, hsights, hsights', hnext, hnow, List.range'_succ, List.flatMap_cons]
    rfl

/-! ## The retry layer -/

/-- A policy that is in order permits one attempt at least. -/
theorem maxAttempts_pos_of_validate (hvalid : policy.validate = .ok ()) :
    0 < policy.maxAttempts.toNat := by
  refine Nat.pos_of_ne_zero fun hzero => ?_
  have hmax : policy.maxAttempts = 0 := UInt32.toNat_inj.1 hzero
  simp [RetryPolicy.validate, hmax] at hvalid

/-- The attempt that uses up the budget is the last one if none before it is. -/
theorem stopsAt_maxAttempts : StopsAt policy plan policy.maxAttempts.toNat := by
  unfold StopsAt
  split
  · trivial
  · exact .inr rfl
  · trivial

variable (plan) in
/-- Some attempt is the last. -/
theorem exists_isLeast_stopsAt (hvalid : policy.validate = .ok ()) :
    ∃ n, IsLeast {i | 1 ≤ i ∧ StopsAt policy plan i} n ∧ n ≤ policy.maxAttempts.toNat := by
  classical
  have hmax : 1 ≤ policy.maxAttempts.toNat ∧ StopsAt policy plan policy.maxAttempts.toNat :=
    ⟨maxAttempts_pos_of_validate hvalid, stopsAt_maxAttempts⟩
  have hleast := Nat.isLeast_find (p := fun i => 1 ≤ i ∧ StopsAt policy plan i) ⟨_, hmax⟩
  exact ⟨_, hleast, hleast.2 hmax⟩

theorem toNat_ofNat_of_le {i : Nat} {m : UInt32} (h : i ≤ m.toNat) : (UInt32.ofNat i).toNat = i :=
  UInt32.toNat_ofNat_of_lt' (Nat.lt_of_le_of_lt h m.toNat_lt)

variable (name policy plan) in
/-- A run of `n` attempts of a plan that is made in the world `w`: the report on it, the world that
it leaves, and what is seen of it. -/
structure RunOf (w : World) (n : Nat) (report : Report (Except (Fault ε) γ)) (w' : World)
    (seen : List (Nat × Sight)) : Prop where
  /-- The last attempt decides how the run ends. -/
  ending : report.ending = some (verdict name policy (plan (n - 1)).ending)
  /-- The attempts begin at their offsets, the first one at once. -/
  starts : report.starts = (List.range n).map (offset policy plan)
  finished : report.finished = n
  /-- From the end of an attempt to the next one it takes the delay of the policy, rounded up. -/
  spacing : ∀ k, policy.delayFor (.ofNat (k + 1)) ≤ .longestSleep →
    offset policy plan (k + 1) = offset policy plan k + (plan k).delay.sleepMillis +
      (policy.delayFor (.ofNat (k + 1))).ceilMillis
  /-- Each attempt but the first is told right before it begins. -/
  seen : seen = (w.now, .attempt) ::
    (List.range' 1 (n - 1)).flatMap (retrySights name policy plan w.now)
  /-- The journal of a world that listens has the retries and no other signal. -/
  signals : w.listening = true → Notice.signals w'.notices = Notice.signals w.notices ++
    (List.range' 2 (n - 1)).map fun i => .retryAttempt name (.ofNat i)
  now : w'.now = w.now + offset policy plan (n - 1) + (plan (n - 1)).delay.sleepMillis

/-- Retries of an operation that follows a plan leave the layers alone. -/
theorem meets_run_plan : (run name policy (Trial.operation plan) : Activity β _).Meets Effect.Plain
    fun _ => True :=
  meets_run name policy (fun _ => trivial) (Trial.meets_operation plan) (fun _ _ => trivial)
    (fun _ _ => trivial) (fun _ _ _ => trivial) fun _ => trivial

/-- The retry layer as a function of a plan. A policy that is not in order is refused and nothing
happens. Otherwise the attempts go on up to the first that brings a value, fails with an error that
is not worth another attempt, or uses up the budget, and all their numbers are words. -/
theorem run_follows_plan (name : String) (policy : RetryPolicy) (plan : Nat → Trial ε γ)
    (w : World) :
    let x : Activity β (Except (Fault ε) γ) := run name policy (Trial.operation plan)
    (∀ e, policy.validate = .error e →
      w.call x = (⟨some (.returned (.error (.invalidConfiguration e.message))), [], 0, some 0⟩, w) ∧
        x.trace ⟨w, .empty⟩ = []) ∧
    (policy.validate = .ok () →
      ∃ n, IsLeast {i | 1 ≤ i ∧ StopsAt policy plan i} n ∧ n ≤ policy.maxAttempts.toNat ∧
        (∀ i ≤ n, (UInt32.ofNat i).toNat = i) ∧
        RunOf name policy plan w n (w.call x).1 (w.call x).2 (sights (x.trace ⟨w, .empty⟩))) := by
  intro x
  refine ⟨fun e he => ?_, fun hvalid => ?_⟩
  · -- The policy is refused before anything happens.
    have hx : x = .pure (.error (.invalidConfiguration e.message)) := by
      simp only [x, run, he]
    rw [hx]
    exact ⟨by simp [World.call, Activity.run, Activity.pure, Record.report, Record.empty,
      Ending.returned?], rfl⟩
  · -- The loop, from the first attempt on, with `n - 1` more to come.
    obtain ⟨n, hleast, hle⟩ := exists_isLeast_stopsAt plan hvalid
    obtain ⟨⟨hone, hstop⟩, hlower⟩ := hleast
    have hmore : 0 + (n - 1) + 1 = n := by omega
    have hbudget : 0 + (policy.maxAttempts.toNat - 1) + 1 = policy.maxAttempts.toNat := by omega
    obtain ⟨t, s', hruns, hsights, hnow, hfinished⟩ := runs_attempts (β := β) name
      (k := 0) (s := ⟨w, .empty⟩) rfl hbudget (hmore.symm ▸ hstop)
      (fun i hi hlt hi' => absurd (hlower ⟨hi, hi'⟩) (by omega)) (rfl : w.now = w.now + 0)
    have hx : x = attempts name policy (Trial.operation plan) (policy.maxAttempts.toNat - 1) 0 := by
      simp only [x, run, hvalid]
    rw [Nat.zero_add] at hruns hnow
    replace hruns : x.Runs ⟨w, .empty⟩ t _ s' := hx ▸ hruns
    -- What the derivation says of the report, of the trace and of the journal.
    have hcall : w.call x = (s'.record.report w.now s'.world.now
        (some (verdict name policy (plan (n - 1)).ending)), s'.world) := by
      rw [World.call, hruns.run_eq]
    have hstarts := hruns.starts_eq
    have hsignals := hruns.signals_eq (hruns.effects meets_run_plan)
    rw [hsights] at hstarts hsignals
    refine ⟨n, ⟨⟨hone, hstop⟩, hlower⟩, hle, fun i hi => toNat_ofNat_of_le (hi.trans hle), ?_⟩
    rw [hcall, hruns.trace_eq]
    refine ⟨rfl, ?_, ?_, fun k hk => ?_, hsights, fun hlistening => ?_, hnow⟩
    · show (s'.record.starts.toList.map (· - w.now)) = _
      rw [hstarts, map_range_succ n hone]
      simp [Record.empty, attemptTimes_cons_attempt, attemptTimes_retrySights, Function.comp_def,
        offset]
    · show s'.record.finished = n
      rw [hfinished]
      simp only [Record.empty]
      omega
    · rw [offset, Duration.sleepMillis_of_le hk]
    · rw [hsignals hlistening, ← toldSignals_retrySights]
      rfl

/-- An operation that fails once is attempted twice under the standard policy, and not at all under
one that permits no attempts. -/
theorem run_follows_plan_standard :
    let plan : Nat → Trial OperationError Nat := fun k =>
      ⟨.ofMillis 5, .returned (if k = 0 then .error ⟨"down"⟩ else .ok k)⟩
    let x (policy : RetryPolicy) : Activity Unit _ := run "api" policy (Trial.operation plan)
    let w := World.start true
    let idle := { RetryPolicy.standard with maxAttempts := 0 }
    RetryPolicy.standard.validate = .ok () ∧
      RunOf "api" .standard plan w 2 (w.call (x .standard)).1 (w.call (x .standard)).2
        (sights ((x .standard).trace ⟨w, .empty⟩)) ∧
      idle.validate = .error .noAttempts ∧
      w.call (x idle) =
        (⟨some (.returned (.error (.invalidConfiguration PolicyError.noAttempts.message))), [], 0,
          some 0⟩, w) := by
  intro plan x w idle
  have hvalid : RetryPolicy.standard.validate = .ok () := by decide +kernel
  obtain ⟨n, hleast, -, -, hrun⟩ := (run_follows_plan (β := Unit) "api" .standard plan w).2 hvalid
  have hgo : ¬ StopsAt .standard plan 1 := by
    show ¬(RetryPolicy.standard.accepts _ = false ∨ 1 = RetryPolicy.standard.maxAttempts.toNat)
    decide
  -- The first attempt fails and is worth another, the second one brings a value.
  have htwo : IsLeast {i | 1 ≤ i ∧ StopsAt .standard plan i} 2 := by
    refine ⟨⟨by omega, trivial⟩, fun i ⟨hone, hstop⟩ => ?_⟩
    rcases Nat.eq_or_lt_of_le hone with rfl | hlt
    · exact absurd hstop hgo
    · exact hlt
  obtain rfl : n = 2 := Nat.le_antisymm (hleast.2 htwo.1) (htwo.2 hleast.1)
  have hidle : idle.validate = .error .noAttempts := rfl
  exact ⟨hvalid, hrun, hidle,
    ((run_follows_plan (β := Unit) "api" idle plan w).1 .noAttempts hidle).1⟩

end Retry

end Safeguard
