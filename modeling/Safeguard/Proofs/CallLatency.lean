import Safeguard.Proofs.AttemptStory
import Safeguard.Proofs.RetryDelay

/-!
# How long a call takes

`Activity.Timely P budget` says of an activity that it comes to its end within a budget of
milliseconds if nothing comes from outside, and that it panics with messages that satisfy `P` only.
Without a budget it may wait for as long as it likes. A deadline gives a budget to any activity. The
retry loop spends one for each attempt and one for each delay, and the layers around it spend
nothing.

## Key results

- `Timely.bind`, `Timely.deadline`, `Timely.holding`: the combinators
- `Timely.foreground`: an activity in the foreground
- `Retry.timely_attempts`: the retry loop
- `returns_in_time`: a call whose attempts have a deadline
-/

namespace Safeguard

namespace Activity

variable {β α γ : Type}

/-- Left to itself the activity ends within a budget of milliseconds, if there is one, and if it
panics its message satisfies `P`. -/
inductive Timely (P : String → Prop) : Option Nat → Activity β α → Prop where
  | returned {budget : Option Nat} (a : α) : Timely P budget (.ended (.returned a))
  | panicked {budget : Option Nat} {message : String} (h : P message) :
      Timely P budget (.ended (.panicked message))
  | act {budget : Option Nat} {e : Effect} {next : e.Answer → Activity β α}
      (h : ∀ a, Timely P budget (next a)) : Timely P budget (.act e next)
  | wait {budget : Option Nat} {w : Wait} {next : Wake β w.limit w.gated → Activity β α}
      (hlimit : ∀ b ∈ budget, ∃ ms, w.limit = some ms ∧ ms ≤ b)
      (h : ∀ ms hms, Timely P (budget.map (· - ms)) (next (.elapsed ms hms))) :
      Timely P budget (.wait w next)

namespace Timely

variable {P : String → Prop} {budget budget' : Option Nat} {x : Activity β α}

/-! ### Combinators -/

/-- A larger budget, or none at all, is enough as well. -/
theorem mono (hx : x.Timely P budget) (hle : ∀ b' ∈ budget', ∃ b ∈ budget, b ≤ b') :
    x.Timely P budget' := by
  induction hx generalizing budget' with
  | returned a => exact .returned a
  | panicked h => exact .panicked h
  | act _ ih => exact .act fun a => ih a hle
  | wait hlimit _ ih =>
    refine .wait (fun b' hb' => ?_) fun ms hms => ih ms hms fun c' hc' => ?_
    · obtain ⟨b, hb, hbb'⟩ := hle b' hb'
      obtain ⟨ms, hms, hle'⟩ := hlimit b hb
      exact ⟨ms, hms, Nat.le_trans hle' hbb'⟩
    -- What is left of the larger budget behind the wait is at least what was left of the smaller
    -- one.
    · obtain ⟨b', hb', rfl⟩ := Option.map_eq_some_iff.1 hc'
      obtain ⟨b, rfl, hbb'⟩ := hle b' hb'
      exact ⟨b - ms, rfl, by omega⟩

/-- What needs no time is within every budget. -/
private theorem of_zero (hx : x.Timely P (some 0)) : x.Timely P budget :=
  hx.mono fun _ _ => ⟨0, rfl, Nat.zero_le _⟩

/-- A larger budget is enough. -/
private theorem of_le {b b' : Nat} (hx : x.Timely P (some b)) (hle : b ≤ b') :
    x.Timely P (some b') :=
  hx.mono fun _ hc => ⟨b, rfl, Option.some.inj hc ▸ hle⟩

/-- The budget of what comes first and the budget of what follows it. -/
theorem bind {b c : Nat} {k : α → Activity β γ} (hx : x.Timely P (some b))
    (hk : ∀ a, (k a).Timely P (some c)) : (x.bind k).Timely P (some (b + c)) := by
  -- By induction on the first part; the budget is a variable to make that go through.
  generalize hbudget : some b = budget at hx
  induction hx generalizing b with
  | returned a => exact (hk a).of_le (Nat.le_add_left c b)
  | panicked h => exact .panicked h
  | act _ ih => exact .act fun a => ih a hbudget
  | @wait _ w next hlimit _ ih =>
    subst hbudget
    obtain ⟨ms, hms, hle⟩ := hlimit b rfl
    refine .wait (fun b' hb' => ⟨ms, hms, ?_⟩) fun ms' hms' => ?_
    · obtain rfl : b + c = b' := Option.some.inj hb'
      omega
    · -- The wait takes no longer than the budget of the first part, so none of the other is spent.
      obtain rfl : ms = ms' := Option.some.inj (hms.symm.trans hms')
      have hrest := ih ms hms' (b := b - ms) rfl
      rw [show b - ms + c = b + c - ms by omega] at hrest
      exact hrest

/-- Without a budget nothing is said of the time. -/
theorem bind_unbounded {k : α → Activity β γ} (hx : x.Timely P none)
    (hk : ∀ a, (k a).Timely P none) : (x.bind k).Timely P none := by
  generalize hbudget : none = budget at hx
  induction hx with
  | returned a => exact hbudget ▸ hk a
  | panicked h => exact .panicked h
  | act _ ih => exact .act fun a => ih a hbudget
  | wait _ _ ih =>
    subst hbudget
    exact .wait nofun fun ms hms => ih ms hms rfl

/-- Changing the result takes no time. -/
theorem map {f : α → γ} {b : Nat} (hx : x.Timely P (some b)) : (x.map f).Timely P (some b) :=
  hx.bind (c := 0) fun a => .returned (f a)

/-- Notices take no time. -/
theorem telling {notices : List Notice} (hx : x.Timely P budget) :
    (Activity.telling notices x).Timely P budget := by
  induction notices with
  | nil => exact hx
  | cons notice notices ih => exact .act fun _ => ih

/-- A sleep takes its own time; one of no length does not even wait. -/
theorem sleep (running : Bool) (ms : Nat) :
    (Activity.sleep running ms : Activity β Unit).Timely P (some ms) := by
  unfold Activity.sleep
  split
  · refine .wait (fun b hb => ⟨ms, rfl, ?_⟩) fun _ _ => .returned ()
    obtain rfl : ms = b := Option.some.inj hb
    exact Nat.le_refl ms
  · exact .returned ()

/-- Giving a permit back takes no time. -/
theorem holding (i : Nat) (hx : x.Timely P budget) : (x.holding i).Timely P budget := by
  induction hx with
  | returned a => exact .act fun _ => .returned a
  | panicked h => exact .act fun _ => .panicked h
  | act _ ih => exact .act ih
  | wait hlimit _ ih => exact .wait hlimit ih

/-- Permits that are given back take no time. -/
theorem leaving (bulkheads : List Nat) (hx : x.Timely P budget) :
    (Activity.leaving bulkheads x).Timely P budget := by
  induction bulkheads with
  | nil => exact hx
  | cons i bulkheads ih => exact .act fun _ => ih

/-- A deadline is a budget, whatever it is a deadline for. -/
theorem deadline (hx : x.Timely P none) (b : Nat) : (x.deadline b).Timely P (some b) := by
  generalize hbudget : none = budget at hx
  induction hx generalizing b with
  | returned a => exact .returned (some a)
  | panicked h => exact .panicked h
  | act _ ih => exact .act fun a => ih a b hbudget
  | @wait _ w next _ _ ih =>
    subst hbudget
    have dropped (c : Option Nat) :
        (Activity.leaving w.leaves (.pure none) : Activity β (Option α)).Timely P c :=
      leaving w.leaves (.returned none)
    unfold Activity.deadline
    split
    -- No time is left at all.
    · exact dropped _
    · split
      · next hends =>
        -- The wait ends by itself, and the rest has what is left of the budget.
        refine .wait (fun b' hb' => ?_) fun ms hms => ih ms hms (b - ms) rfl
        obtain rfl : b = b' := Option.some.inj hb'
        cases hms : w.limit with
        | none => simp [Wait.endsWithin, hms] at hends
        | some ms => exact ⟨ms, rfl, by simpa [Wait.endsWithin, hms] using hends⟩
      · refine .wait (fun b' hb' => ⟨b, rfl, ?_⟩) fun ms hms => dropped _
        obtain rfl : b = b' := Option.some.inj hb'
        exact Nat.le_refl b

/-! ### In the foreground -/

/-- In the foreground an activity ends within its budget, whatever else goes on meanwhile. -/
theorem foreground {b : Nat} (hx : x.Timely P (some b)) (record : Record) (f : Floor β α) :
    ∃ ending, (Floor.foreground x record f).1 = some ending ∧
      (∀ message, ending = .panicked message → P message) ∧
      (Floor.foreground x record f).2.2.world.now ≤ f.world.now + b := by
  generalize hbudget : some b = budget at hx
  induction hx generalizing b record f with
  | returned a => exact ⟨_, rfl, nofun, Nat.le_add_right _ _⟩
  | @panicked _ message h =>
    refine ⟨_, rfl, fun message' heq => ?_, Nat.le_add_right _ _⟩
    obtain rfl : message = message' := Ending.panicked.inj heq
    exact h
  | @act _ e next _ ih =>
    -- An effect takes no time.
    have hnow := Scene.now_perform ⟨f.world, record⟩ e
    obtain ⟨ending, hending, hP, hle⟩ := ih (Scene.perform ⟨f.world, record⟩ e).1
      (Scene.perform ⟨f.world, record⟩ e).2.record
      { f with world := (Scene.perform ⟨f.world, record⟩ e).2.world } hbudget
    rw [hnow] at hle
    exact ⟨ending, hending, hP, hle⟩
  | @wait _ w next hlimit _ ih =>
    subst hbudget
    obtain ⟨ms, hms, hle⟩ := hlimit b rfl
    -- The wait ends by itself, and moves the clock by its length.
    rw [Floor.foreground_wait hms]
    obtain ⟨ending, hending, hP, hbound⟩ :=
      ih ms hms (b := b - ms) record (f.runUpTo (f.world.now + ms)) rfl
    have hnow : (f.runUpTo (f.world.now + ms)).world.now = f.world.now + ms := rfl
    exact ⟨ending, hending, hP, by omega⟩

end Timely

end Activity

open Activity (Timely)

variable {β γ : Type}

/-! ## Attempts and retries -/

/-- The panics that the entries of a script bring. -/
def Script.Panics (script : Script β) (message : String) : Prop :=
  ∃ n delay, script.attempt n = .timed delay (.panic message)

/-- An operation takes its time, which may be for ever. -/
private theorem Script.timely_operation (script : Script β) :
    script.operation.Timely script.Panics none := by
  refine .act fun (n : Nat) => ?_
  cases hentry : script.attempt n with
  | timed delay outcome =>
    -- Nothing is said of how long the attempt sleeps, so no budget is needed.
    refine Timely.bind_unbounded ((Timely.sleep _ _).mono nofun) fun _ => .act fun _ => ?_
    cases outcome with
    | value v => exact .returned _
    | error e => exact .returned _
    | panic message => exact .panicked ⟨n, delay, hentry⟩
  | gated => exact .wait nofun fun ms hms => nomatch hms

namespace Retry

variable {ε : Type} {P : String → Prop} {policy : RetryPolicy}
  {operation : Activity β (Except ε γ)} {b d : Nat}

/-- The end of a loop that has succeeded takes no time. -/
private theorem timely_success (made : UInt32) (v : γ) :
    (success made v : Activity β (Except (Fault ε) γ)).Timely P (some 0) := by
  unfold success
  split
  · exact .returned _
  · exact .telling (.returned _)

/-- The loop spends the budget of an attempt on each attempt, and a delay on each that may follow
the next one. -/
theorem timely_attempts [Seen ε] (name : String) (hop : operation.Timely P (some b))
    (hdelay : ∀ retry, (policy.delayFor retry).sleepMillis ≤ d) (left : Nat) (made : UInt32) :
    (attempts name policy operation left made).Timely P (some ((left + 1) * b + left * d)) := by
  -- By induction on the attempts that may follow this one.
  induction left generalizing made with
  | zero =>
    refine (hop.bind (c := 0) fun result => ?_).of_le (by omega)
    cases result with
    | ok v => exact timely_success made v
    | error e =>
      dsimp only
      split
      · exact .telling (.returned _)
      · exact .telling (.returned _)
  | succ left ih =>
    refine (hop.bind (c := d + ((left + 1) * b + left * d)) fun result => ?_).of_le
      (Nat.le_of_eq ?_)
    · cases result with
      | ok v => exact (timely_success made v).of_zero
      | error e =>
        dsimp only
        split
        · -- A delay that is no longer than the longest one, and then the rest of the loop.
          refine .telling (Timely.bind ((Timely.sleep _ _).of_le (hdelay (made + 1))) fun _ => ?_)
          exact .telling (ih (made + 1))
        · exact .telling (.returned _)
    · rw [Nat.succ_mul (left + 1), Nat.succ_mul left d]
      omega

end Retry

namespace Orchestrator

variable {name : String} {options : Options} {script : Script β}

/-- The longest time that a call may take whose attempts have a deadline, in milliseconds: an
attempt up to its deadline, as often as the call makes one, and between two of them the longest
delay. -/
def latencyBound (options : Options) (limit : Duration) : Nat :=
  match options.retry with
  | none => limit.ceilMillis
  | some p =>
    p.maxAttempts.toNat * limit.ceilMillis + (p.maxAttempts.toNat - 1) * p.maxDelay.ceilMillis

/-- An attempt is over when its deadline is. -/
private theorem timely_attempt (name : String) {t : TimeoutPolicy} (hmode : t.mode = .cancel)
    (script : Script β) : (attempt (some ⟨name, t⟩) script.operation).Timely script.Panics
      (some t.limit.ceilMillis) := by
  show ((⟨name, t⟩ : Deadline).guard script.operation).Timely _ _
  unfold Deadline.guard
  rw [show (⟨name, t⟩ : Deadline).policy.mode = .cancel from hmode]
  have hcut := script.timely_operation.deadline t.limit.ceilMillis
  refine (hcut.bind (c := 0) fun answer => ?_).of_le (Nat.le_of_eq (Nat.add_zero _))
  cases answer with
  | none => exact .telling (.returned _)
  | some result => exact .returned _

/-! ## The call -/

/-- The attempts of a call stay within the bound, retries and all. -/
private theorem timely_inner (name : String) (hvalid : options.Valid) {t : TimeoutPolicy}
    (ht : options.timeout = some t) (hmode : t.mode = .cancel) (script : Script β) :
    (inner name options script.operation).Timely script.Panics
      (some (latencyBound options t.limit)) := by
  have hattempt := timely_attempt (timeoutKey name) hmode script
  unfold inner layered latencyBound
  rw [ht]
  cases hretry : options.retry with
  | none => exact hattempt
  | some p =>
    have hpolicy : p.unwrapping.validate = .ok () := hvalid.retry p hretry
    have hpos := Retry.maxAttempts_pos_of_validate hpolicy
    -- The delays stay below the longest one of the policy.
    have hdelay : ∀ retry, (p.unwrapping.delayFor retry).sleepMillis ≤ p.maxDelay.ceilMillis :=
      fun retry => Nat.le_trans (Duration.sleepMillis_le _)
        (Duration.ceilMillis_le (p.unwrapping.delayFor_le retry))
    have hrun := Retry.timely_attempts (retryKey name) hattempt hdelay
      (p.unwrapping.maxAttempts.toNat - 1) 0
    rw [Nat.sub_add_cancel hpos] at hrun
    dsimp only [Option.map_some]
    unfold Retry.run
    rw [hpolicy]
    exact hrun.map

/-- The layers around the attempts of a call spend no time. -/
private theorem timely_layered {layers : Layers} {w : World}
    (hresolved : Resolved name options w (.ok layers)) {t : TimeoutPolicy}
    (ht : options.timeout = some t) (hmode : t.mode = .cancel) (script : Script β) :
    (layered layers script.operation).Timely script.Panics
      (some (latencyBound options t.limit)) := by
  obtain ⟨bulkhead, breaker, deadline, retry⟩ := layers
  cases hresolved with
  | found hvalid _ _ hdeadline hretry =>
  obtain rfl : deadline = _ := hdeadline
  obtain rfl : retry = _ := hretry
  -- From the inside out: the attempts under their deadlines, then the breaker, then the bulkhead.
  have hinner := timely_inner name hvalid ht hmode script
  have hbroken : (layered ⟨none, breaker, options.timeout.map (⟨timeoutKey name, ·⟩),
      options.retry.map fun p => (retryKey name, p.unwrapping)⟩ script.operation).Timely
        script.Panics (some (latencyBound options t.limit)) := by
    cases breaker with
    | none => exact hinner
    | some i =>
      refine Timely.map (.act fun (answer : Except Rejection Unit) => ?_)
      cases answer with
      | error rejection => exact .telling (.returned _)
      | ok _ =>
        refine hinner.bind (c := 0) fun result => ?_
        cases result with
        | ok v => exact .act fun _ => .returned _
        | error fault => exact .act fun _ => .telling (.returned _)
  -- A refusal ends the call at once, and so does the end of the attempts.
  cases bulkhead with
  | none => exact hbroken
  | some j =>
    refine Timely.map (.act fun (answer : Except Rejection Unit) => ?_)
    cases answer with
    | error rejection => exact .returned _
    | ok _ => exact .holding j hbroken.map

/-- A call whose attempts have a deadline that drops them comes to its end within a bound that
depends on its options only: the length of the deadline for each attempt that it may make, and the
longest delay between two of them, all in milliseconds that are rounded up. The attempts may take
any time, and need not end at all; the predicate, the multiplier, the bulkhead and the breaker do
not matter, nor do the calls that are under way meanwhile. The call returns unless an attempt
panics. -/
theorem returns_in_time (name : String) (hvalid : options.Valid) {t : TimeoutPolicy}
    (ht : options.timeout = some t) (hmode : t.mode = .cancel) (script : Script β)
    (f : Floor β (Except (Fault OperationError) β)) :
    let r := f.call (call name options script.operation)
    (∃ ending, r.1.ending = some ending ∧
      ∀ message, ending = .panicked message → script.Panics message) ∧
    r.2.world.now ≤ f.world.now + latencyBound options t.limit ∧
    ∀ result, r.1.ending = some (.returned result) →
      ∃ ms, r.1.elapsed = some ms ∧ ms ≤ latencyBound options t.limit := by
  intro r
  obtain ⟨answer, s, hreaches, -, hregisters, hresolved⟩ :=
    resolve_resolves (β := β) name options ⟨f.world, .empty⟩
  have hresolved' := hresolved
  cases hresolved' with
  | refused hfault => simp [Options.fault?_eq_none_iff.2 hvalid] at hfault
  | @found layers =>
    -- Finding the layers takes no time, and what follows stays within the bound.
    have htimely : (reported name f.world.now (layered layers script.operation)).Timely
        script.Panics (some (latencyBound options t.limit)) :=
      (timely_layered hresolved ht hmode script).bind (c := 0) fun result =>
        .act fun _ => .telling (.returned result)
    have hcall : (call name options script.operation).Reaches ⟨f.world, .empty⟩
        (reported name f.world.now (layered layers script.operation)) s :=
      .act ((hreaches.bind _).bind _)
    obtain ⟨ending, hending, hpanics, hle⟩ :=
      htimely.foreground s.record { f with world := s.world }
    rw [← hcall.foreground_eq f] at hending hle
    have hnow : s.world.now = f.world.now := hregisters.now
    have hend : r.2.world.now =
        (Floor.foreground (call name options script.operation) .empty f).2.2.world.now :=
      Floor.now_runUntil _ _
    have hbound : r.2.world.now ≤ f.world.now + latencyBound options t.limit := by
      rw [hend]
      simpa [hnow] using hle
    refine ⟨⟨ending, hending, hpanics⟩, hbound, fun result hresult => ?_⟩
    refine ⟨r.2.world.now - f.world.now, ?_, by omega⟩
    have hreturned : (Floor.foreground (call name options script.operation) .empty f).1 =
        some (.returned result) := hresult
    show ((Floor.foreground (call name options script.operation) .empty f).1.bind
      (·.returned?)).map _ = _
    rw [hreturned, hend]
    rfl

/-- No attempt ever comes to an end, and each of the three is dropped after 50 ms; the delays
between them are 100 ms and 200 ms. -/
theorem returns_in_time_dropped :
    let options : Options :=
      ⟨some .standard, some .standard, some .standard, some ⟨.ofMillis 50, .cancel⟩⟩
    let script : Script Nat := .repeating .gated
    let f : Floor Nat (Except (Fault OperationError) Nat) := .ofWorld (.start true)
    let r := f.call (call "api" options script.operation)
    options.Valid ∧ r.1.elapsed = some 450 ∧ latencyBound options (.ofMillis 50) = 2150 ∧
      r.2.world.now ≤ f.world.now + 2150 := by
  intro options script
  have hvalid : options.Valid := by
    refine ⟨?_, ?_, ?_, ?_⟩ <;> intro p hp <;> obtain rfl := Option.some.inj hp <;> decide +kernel
  have hlimit : options.timeout = some ⟨.ofMillis 50, .cancel⟩ := rfl
  have hbound : latencyBound options (.ofMillis 50) = 2150 := by decide +kernel
  obtain ⟨-, hle, -⟩ := returns_in_time "api" hvalid hlimit rfl script (.ofWorld (.start true))
  rw [hbound] at hle
  exact ⟨hvalid, by decide +kernel, hbound, hle⟩

end Orchestrator

end Safeguard
