import Safeguard.Proofs.CallProgress
import Safeguard.Proofs.LayerResolution
import Safeguard.Proofs.RetryCorrect

/-!
# What the result of a call means

A call under its layers has one level of faults, and the fault names the layer that decided. This
file follows the result of a call from its last attempt outwards: what an attempt yields
(`Attempt.Yields`), what retries make of it (`Retry.Concludes`), and that neither the breaker nor
the bulkhead changes it once they have let the call in. A call that was not let in is refused
before its first attempt (`Orchestrator.Refusal`).

## Key results

- `ensures_attempt`: an attempt under its deadline
- `Retry.ensures_attempts`: the retry loop
- `call_begins`: a call is refused before its first wait, or is let in
- `result_explained`: the result of a call, in the foreground and in the background
-/

namespace Safeguard

variable {β γ : Type}

/-! ## Attempts -/

namespace Attempt

/-- The attempt comes to an outcome, in time if it has a deadline. A gated one comes to the outcome
that was used last. -/
def Brings (timeout : Option TimeoutPolicy) (used : List (Outcome β)) (outcome : Outcome β) :
    Attempt β → Prop
  | timed delay planned => outcome = planned ∧
      ∀ t ∈ timeout, t.mode = .cancel → delay.sleepMillis ≤ t.limit.ceilMillis
  | gated => used.getLast? = some outcome

/-- The attempt is not over after `budget` milliseconds, unless an outcome comes from outside. -/
def Outlasts (budget : Nat) : Attempt β → Prop
  | timed delay _ => budget < delay.sleepMillis
  | gated => True

/-- What an attempt under its deadline yields: the value or the error of its outcome, or the fault
of a deadline that drops attempts. -/
inductive Yields (timeout : Option TimeoutPolicy) (used : List (Outcome β)) (a : Attempt β) :
    Except (Fault OperationError) β → Prop where
  | value {v : β} (h : a.Brings timeout used (.value v)) : Yields timeout used a (.ok v)
  | failed {e : OperationError} (h : a.Brings timeout used (.error e)) :
      Yields timeout used a (.error (.operation e))
  | timedOut {t : TimeoutPolicy} (ht : timeout = some t) (hmode : t.mode = .cancel)
      (hlong : a.Outlasts t.limit.ceilMillis) :
      Yields timeout used a (.error (.timedOut t.limit))

/-- An outcome that brings a result is what the attempt yields. -/
private theorem Brings.yields {timeout : Option TimeoutPolicy} {used : List (Outcome β)}
    {outcome : Outcome β} {a : Attempt β} (h : a.Brings timeout used outcome)
    {result : Except OperationError β} (hresult : outcome.ending = .returned result) :
    a.Yields timeout used (result.mapError .operation) := by
  cases outcome with
  | value v =>
    obtain rfl : .ok v = result := Ending.returned.inj hresult
    exact .value h
  | error e =>
    obtain rfl : .error e = result := Ending.returned.inj hresult
    exact .failed h
  | panic message => cases hresult

/-- The failure of an attempt is the operation's or the deadline's. -/
theorem Yields.kind {timeout : Option TimeoutPolicy} {used : List (Outcome β)} {a : Attempt β}
    {fault : Fault OperationError} (h : a.Yields timeout used (.error fault)) :
    fault.kind = .operation ∨ fault.kind = .timedOut := by
  cases h with
  | failed => exact .inl rfl
  | timedOut => exact .inr rfl

end Attempt

namespace Script

open Activity (Ensures)

/-- The end of an attempt makes no progress. -/
private theorem ensures_conclude (outcome : Outcome β) (p : Progress β) :
    (conclude outcome).Ensures (fun q result => q = p ∧ outcome.ending = .returned result) p := by
  refine .act nofun fun _ => ?_
  cases outcome with
  | value | error => exact .returned ⟨rfl, rfl⟩
  | panic => exact .panicked _

/-- An attempt that no deadline drops. -/
private theorem ensures_play {timeout : Option TimeoutPolicy} (h : ∀ t ∈ timeout, t.mode ≠ .cancel)
    (a : Attempt β) (p : Progress β) :
    (play a).Ensures (fun q result => q.made = p.made ∧
      ∃ outcome, outcome.ending = .returned result ∧ a.Brings timeout q.used outcome) p := by
  -- Without a deadline that drops it, an attempt ends with its own outcome, or with the one that
  -- was fed to it.
  cases a with
  | timed delay outcome =>
    refine (Ensures.sleep true _ p).bind fun q _ hq => ?_
    obtain rfl : q = p := hq
    refine (ensures_conclude outcome q).mono fun q' result ⟨hq', hresult⟩ => ?_
    exact ⟨congrArg Progress.made hq', outcome, hresult, rfl,
      fun t ht hmode => absurd hmode (h t ht)⟩
  | gated =>
    refine .wait fun wake => ?_
    cases wake with
    | elapsed ms h => nomatch h
    | opened _ _ outcome =>
      refine (ensures_conclude outcome _).mono fun q result ⟨hq, hresult⟩ => ?_
      subst hq
      exact ⟨rfl, outcome, hresult, List.getLast?_concat⟩

/-- An attempt that its deadline drops when the time is up. -/
private theorem ensures_deadline (t : TimeoutPolicy) (a : Attempt β) (p : Progress β) :
    ((play a).deadline t.limit.ceilMillis).Ensures (fun q answer => q.made = p.made ∧
      match answer with
      | some result => ∃ outcome, outcome.ending = .returned result ∧
          a.Brings (some t) q.used outcome
      | none => a.Outlasts t.limit.ceilMillis) p := by
  -- The end of the attempt is not cut off any more.
  have concluded {R : Progress β → Option (Except OperationError β) → Prop} (outcome : Outcome β)
      (budget : Nat) (q : Progress β)
      (h : ∀ result, outcome.ending = .returned result → R q (some result)) :
      ((conclude outcome).deadline budget).Ensures R q := by
    refine .act nofun fun _ => ?_
    cases outcome with
    | value v => exact .returned (h _ rfl)
    | error e => exact .returned (h _ rfl)
    | panic => exact .panicked _
  generalize hbudget : t.limit.ceilMillis = budget
  cases a with
  | timed delay outcome =>
    have intime (hle : delay.sleepMillis ≤ budget) :
        Attempt.Brings (some t) p.used outcome (.timed delay outcome) := by
      refine ⟨rfl, fun t' ht' _ => ?_⟩
      obtain rfl : t = t' := Option.some.inj ht'
      rw [hbudget]
      exact hle
    show (((Activity.sleep true delay.sleepMillis).bind fun _ => conclude outcome).deadline
      budget).Ensures _ p
    -- An attempt without a delay is over at once, whatever the deadline.
    unfold Activity.sleep
    split
    · next hpos =>
      refine Ensures.deadline_wait (fun hover => ⟨rfl, hover _ rfl⟩) (fun ms h hle => ?_)
        fun h => absurd h Bool.false_ne_true
      obtain rfl : delay.sleepMillis = ms := Option.some.inj h
      exact concluded outcome _ p fun result h => ⟨rfl, outcome, h, intime hle⟩
    · next hzero =>
      have hle : delay.sleepMillis ≤ budget := by omega
      exact concluded outcome _ p fun result h => ⟨rfl, outcome, h, intime hle⟩
  | gated =>
    refine Ensures.deadline_wait (fun _ => ⟨rfl, trivial⟩) (fun ms h => nomatch h)
      fun h after outcome => ?_
    exact concluded outcome _ _ fun result h => ⟨rfl, outcome, h, List.getLast?_concat⟩

end Script

namespace Orchestrator

open Activity (Ensures)

variable {name : String} {options : Options}

/-- The last attempt of a call that has come so far yields a result. -/
def LastYields (script : Script β) (timeout : Option TimeoutPolicy) (q : Progress β)
    (result : Except (Fault OperationError) β) : Prop :=
  (script.attempt (q.made - 1)).Yields timeout q.used result

/-- One more attempt is made, and the call yields what that attempt yields. -/
theorem ensures_attempt (name : String) (script : Script β) (timeout : Option TimeoutPolicy)
    (p : Progress β) :
    (attempt (timeout.map (⟨name, ·⟩)) script.operation).Ensures (fun q result =>
      q.made = p.made + 1 ∧ LastYields script timeout q result) p := by
  -- An attempt that no deadline drops.
  have free (h : ∀ t ∈ timeout, t.mode ≠ .cancel) : script.operation.Ensures (fun q result =>
      q.made = p.made + 1 ∧ LastYields script timeout q (result.mapError .operation)) p := by
    refine .invoke ((Script.ensures_play h _ _).mono fun q result hresult => ?_)
    obtain ⟨hmade, outcome, hending, hbrings⟩ := hresult
    refine ⟨hmade, ?_⟩
    rw [LastYields, hmade]
    exact hbrings.yields hending
  cases timeout with
  | none => exact (free nofun).map fun q result h => h
  | some t =>
    show ((⟨name, t⟩ : Deadline).guard _).Ensures _ p
    unfold Deadline.guard
    split
    · next hmode =>
      refine (Ensures.invoke (Script.ensures_deadline t _ _)).bind fun q answer hanswer => ?_
      obtain ⟨hmade, hanswer⟩ := hanswer
      cases answer with
      | none =>
        refine .telling (.returned ⟨hmade, ?_⟩)
        rw [LastYields, hmade]
        exact .timedOut rfl hmode hanswer
      | some result =>
        obtain ⟨outcome, hending, hbrings⟩ := hanswer
        refine .returned ⟨hmade, ?_⟩
        rw [LastYields, hmade]
        exact hbrings.yields hending
    · next hmode =>
      have hfree := free fun t' ht' => by
        obtain rfl : t = t' := Option.some.inj ht'
        rw [show t.mode = .advisory from hmode]
        nofun
      exact .act nofun fun _ => hfree.bind fun q result h =>
        .act nofun fun _ => .telling (.returned h)

end Orchestrator

/-! ## Retries -/

namespace Retry

open Activity (Ensures)

variable {ε : Type} [Seen ε]

/-- What retries conclude from their last attempt, which yields what `Y` says. -/
inductive Concludes (name : String) (policy : RetryPolicy) (Y : Progress β → Except ε γ → Prop)
    (q : Progress β) : Except (Fault ε) γ → Prop where
  | value {v : γ} (h : Y q (.ok v)) : Concludes name policy Y q (.ok v)
  | refused {e : ε} (h : Y q (.error e)) (hpolicy : policy.accepts (Seen.failure e) = false) :
      Concludes name policy Y q (.error (.operation e))
  | exhausted {e : ε} (h : Y q (.error e)) (hpolicy : policy.accepts (Seen.failure e) = true)
      (hmade : q.made = policy.maxAttempts.toNat) :
      Concludes name policy Y q (.error (.retryExhausted name policy.maxAttempts (.operation e)))

variable {name : String} {policy : RetryPolicy} {Y : Progress β → Except ε γ → Prop}
  {operation : Activity β (Except ε γ)}

/-- A value is a value, whether it came after retries or not. -/
private theorem ensures_success {q : Progress β} {v : γ} (hq : 0 < q.made) (hv : Y q (.ok v))
    (made : UInt32) : (success made v : Activity β (Except (Fault ε) γ)).Ensures
      (fun q result => 0 < q.made ∧ Concludes name policy Y q result) q := by
  unfold success
  split
  · exact .returned ⟨hq, .value hv⟩
  · exact .telling (.returned ⟨hq, .value hv⟩)

/-- A failure that the policy refuses is returned as it is. -/
private theorem ensures_refuse {q : Progress β} {e : ε} (hq : 0 < q.made) (he : Y q (.error e))
    (hpolicy : ¬ policy.accepts (Seen.failure e) = true) (made : UInt32) :
    (refuse made e : Activity β (Except (Fault ε) γ)).Ensures
      (fun q result => 0 < q.made ∧ Concludes name policy Y q result) q :=
  .telling (.returned ⟨hq, .refused he (by simpa using hpolicy)⟩)

/-- The loop, with `left` attempts that may follow the next one. -/
theorem ensures_attempts
    (hop : ∀ p, operation.Ensures (fun q result => q.made = p.made + 1 ∧ Y q result) p)
    (left : Nat) (made : UInt32) (hleft : made.toNat + left + 1 = policy.maxAttempts.toNat)
    (p : Progress β) (hmade : p.made = made.toNat) :
    (attempts name policy operation left made).Ensures
      (fun q result => 0 < q.made ∧ Concludes name policy Y q result) p := by
  -- The count of the attempts does not wrap, as the limit of the policy is of the same size.
  have hmax := policy.maxAttempts.toNat_lt
  have next_toNat (made : UInt32) (h : made.toNat < policy.maxAttempts.toNat) :
      (made + 1).toNat = made.toNat + 1 := by
    rw [UInt32.toNat_add, show (1 : UInt32).toNat = 1 from rfl, Nat.mod_eq_of_lt (by omega)]
  -- Induction on the attempts that may follow.
  induction left generalizing made p with
  | zero =>
    have hnext := next_toNat made (by omega)
    refine (hop p).bind fun q result ⟨hq, hresult⟩ => ?_
    cases result with
    | ok v => exact ensures_success (by omega) hresult made
    | error e =>
      dsimp only
      split
      · next haccepts =>
        have hlast : made + 1 = policy.maxAttempts := UInt32.toNat_inj.1 (by omega)
        rw [exhaust, hlast]
        exact .telling (.returned ⟨by omega, .exhausted hresult haccepts (by omega)⟩)
      · next haccepts => exact ensures_refuse (by omega) hresult haccepts (made + 1)
  | succ left ih =>
    have hnext := next_toNat made (by omega)
    refine (hop p).bind fun q result ⟨hq, hresult⟩ => ?_
    cases result with
    | ok v => exact ensures_success (by omega) hresult made
    | error e =>
      dsimp only
      split
      · -- A delay makes no progress, and the next attempt goes on from here.
        refine .telling ((Ensures.sleep _ _ q).bind fun q' _ hq' => .telling ?_)
        obtain rfl : q' = q := hq'
        exact ih (made + 1) (by omega) q' (by omega)
      · next haccepts => exact ensures_refuse (by omega) hresult haccepts (made + 1)

/-- The retry layer, with a policy that is in order. -/
private theorem ensures_run (name : String) (hvalid : policy.validate = .ok ())
    (hop : ∀ p, operation.Ensures (fun q result => q.made = p.made + 1 ∧ Y q result) p)
    {p : Progress β} (hp : p.made = 0) : (run name policy operation).Ensures
      (fun q result => 0 < q.made ∧ Concludes name policy Y q result) p := by
  have hpos := maxAttempts_pos_of_validate hvalid
  unfold run
  rw [hvalid]
  refine ensures_attempts hop _ 0 ?_ p hp
  show 0 + (policy.maxAttempts.toNat - 1) + 1 = policy.maxAttempts.toNat
  omega

end Retry

/-! ## Layers -/

namespace Orchestrator

open Activity (Ensures)

variable {name : String} {options : Options} {script : Script β}

/-- The result of a call that was let in, and that has come so far. -/
inductive Outcomes (name : String) (options : Options) (script : Script β) (q : Progress β) :
    Except (Fault OperationError) β → Prop where
  /-- The last attempt brought a value. -/
  | value {v : β} (h : LastYields script options.timeout q (.ok v)) :
      Outcomes name options script q (.ok v)
  /-- The last attempt failed, and no retry policy asks for another one. -/
  | failed {fault : Fault OperationError} (h : LastYields script options.timeout q (.error fault))
      (hretry : ∀ p ∈ options.retry, p.accepts (Failure.layered fault).unwrapped = false) :
      Outcomes name options script q (.error fault)
  /-- The last attempt failed, and it was the last that the retry policy allows. -/
  | exhausted {p : RetryPolicy} {fault : Fault OperationError} (hp : options.retry = some p)
      (h : LastYields script options.timeout q (.error fault))
      (hretry : p.accepts (Failure.layered fault).unwrapped = true)
      (hmade : q.made = p.maxAttempts.toNat) :
      Outcomes name options script q (.error (.retryExhausted (retryKey name) p.maxAttempts fault))

variable (name) in
/-- The attempts of a call, with its retries. -/
theorem ensures_retried (hvalid : options.Valid) {attempted : Activity β _}
    (hattempted : ∀ p, attempted.Ensures
      (fun q result => q.made = p.made + 1 ∧ LastYields script options.timeout q result) p)
    {p : Progress β} (hp : p.made = 0) :
    (match options.retry.map fun p : RetryPolicy => (retryKey name, p.unwrapping) with
      | some (name, policy) => flattened (Retry.run name policy attempted)
      | none => attempted).Ensures
        (fun q result => 0 < q.made ∧ Outcomes name options script q result) p := by
  cases hretry : options.retry with
  | none =>
    refine (hattempted p).mono fun q result ⟨hq, hresult⟩ => ⟨by omega, ?_⟩
    cases result with
    | ok v => exact .value hresult
    | error fault => exact .failed hresult (by simp [hretry])
  | some policy =>
    have hpolicy : policy.unwrapping.validate = .ok () := hvalid.retry policy hretry
    refine (Retry.ensures_run _ hpolicy hattempted hp).map fun q result ⟨hq, hresult⟩ => ⟨hq, ?_⟩
    -- The fault of the last attempt stands one level below.
    cases hresult with
    | value h => exact .value h
    | refused h hrefused =>
      refine .failed h fun p' hp' => ?_
      obtain rfl : policy = p' := Option.some.inj (hretry.symm.trans hp')
      rw [← RetryPolicy.accepts_unwrapping]
      exact hrefused
    | exhausted h haccepts hmade =>
      refine .exhausted (p := policy) hretry h ?_ hmade
      rw [← RetryPolicy.accepts_unwrapping]
      exact haccepts

/-- What is known of the faults on one level is known when the two levels are made one. -/
private theorem ensures_flattened {R : Progress β → Except (Fault OperationError) γ → Prop}
    {p : Progress β} {x : Activity β (Except (Fault (Fault OperationError)) γ)}
    (hx : x.Ensures (fun q result => R q (result.mapError .flatten)) p) :
    (flattened x).Ensures R p :=
  hx.map fun _ _ h => h

/-- What is known of a result stays known when a bulkhead gets its permit back. -/
private theorem ensures_held {R : Progress β → Except (Fault OperationError) β → Prop}
    {p : Progress β} {x : Activity β (Except (Fault OperationError) β)} (hx : x.Ensures R p)
    (i : Nat) :
    (flattened ((x.map fun result => result.mapError .operation).holding i)).Ensures R p := by
  refine ensures_flattened (Ensures.holding i (hx.map fun q result hresult => ?_))
  cases result <;> exact hresult

/-! ## The beginning of a call -/

/-- Why a call is refused that is made in the world `w`. -/
inductive Refusal (name : String) (options : Options) (w : World) :
    Fault OperationError → Prop where
  | bulkheadFull {b : Bulkhead} (hasked : options.bulkhead.isSome)
      (hb : w.bulkhead? (bulkheadKey name) = some b) :
      Refusal name options w (.bulkheadFull (bulkheadKey name) b.policy.maxConcurrent)
  | circuitOpen (hasked : options.breaker.isSome) :
      Refusal name options w (.circuitOpen (breakerKey name))
  | invalid {e : PolicyError} (h : options.fault? = some e) :
      Refusal name options w (.invalidConfiguration e.message)

/-- What the result of a call that has come so far means. -/
inductive Meaning (name : String) (options : Options) (script : Script β) (w : World)
    (q : Progress β) : Except (Fault OperationError) β → Prop where
  | refused {fault : Fault OperationError} (hq : q.made = 0) (h : Refusal name options w fault) :
      Meaning name options script w q (.error fault)
  | letIn {result : Except (Fault OperationError) β} (hq : 0 < q.made)
      (h : Outcomes name options script q result) : Meaning name options script w q result

/-- Before its first wait a call comes to a point from which it ensures `R`, no attempt having been
made. -/
def Begins (R : Progress β → γ → Prop) (x : Activity β γ) (s : Scene) : Prop :=
  ∃ y s', x.Reaches s y s' ∧ s'.record = s.record ∧ y.Ensures R ⟨0, []⟩

variable {R : Progress β → Except (Fault OperationError) β → Prop}
  {x : Activity β (Except (Fault OperationError) β)} {s : Scene}

/-- What a call does before it comes to a point. -/
theorem Begins.of_reaches {α : Type} {R : Progress β → α → Prop} {x y : Activity β α} {s s' : Scene}
    (hxy : x.Reaches s y s') (hrecord : s'.record = s.record) (h : Begins R y s') :
    Begins R x s := by
  obtain ⟨z, s'', hyz, hrecord', hz⟩ := h
  exact ⟨z, s'', hxy.trans hyz, hrecord'.trans hrecord, hz⟩

/-- A call that ensures `R` from the start. -/
theorem Begins.of_ensures {α : Type} {R : Progress β → α → Prop} {x : Activity β α}
    (hx : x.Ensures R ⟨0, []⟩) (s : Scene) : Begins R x s :=
  ⟨x, s, .refl _ _, rfl, hx⟩

/-- The report at the end makes no progress. -/
theorem Begins.reported (name : String) (h : Begins R x s) :
    Begins R (.act .clock fun (began : Nat) => x.bind fun result => .act .clock fun (now : Nat) =>
      .telling (report name (now - began) result) (.pure result)) s := by
  obtain ⟨y, s', hy, hrecord, hensures⟩ := h
  refine ⟨_, s', .act (hy.bind _), hrecord, hensures.bind fun q result hresult => ?_⟩
  exact .act nofun fun _ => .telling (.returned hresult)

/-- A call that its breaker lets in goes on as it would without it: the result is recorded, and then
stands for itself again. -/
theorem Begins.broken {i : Nat} (hanswer : (s.world.acquire i).1 = .ok ())
    (hx : x.Ensures R ⟨0, []⟩) : Begins R (flattened (underBreaker i x)) s := by
  have hreaches : (underBreaker i x).Reaches s _ _ := .answered hanswer (.refl _ _)
  refine .of_reaches (hreaches.bind _) rfl (.of_ensures ?_ _)
  refine ensures_flattened (hx.bind fun q result hresult => ?_)
  cases result with
  | ok v => exact .act nofun fun _ => .returned hresult
  | error fault => exact .act nofun fun _ => .telling (.returned hresult)

/-- A call that its bulkhead lets in goes on as it would without it. -/
theorem Begins.held {i : Nat} (hanswer : (s.world.enter i).1 = .ok ())
    (hx : Begins R x { s with world := (s.world.enter i).2 }) :
    Begins R (flattened (underBulkhead i x)) s := by
  obtain ⟨y, s', hxy, hrecord, hy⟩ := hx
  have hreaches : (underBulkhead i x).Reaches s _ _ := .answered hanswer (.refl _ _)
  refine .of_reaches (hreaches.bind _) rfl ?_
  exact .of_reaches (((hxy.bind _).holding i).bind _) hrecord (.of_ensures (ensures_held hy i) _)

/-- A call is refused by its breaker, or is let in. -/
private theorem broken_begins (i : Nat) (hx : x.Ensures R ⟨0, []⟩)
    (hrefused : ∀ b, s.world.breakers[i]? = some b →
      R ⟨0, []⟩ (.error (.circuitOpen b.name))) :
    Begins R (flattened (underBreaker i x)) s := by
  -- The breaker answers at once.
  rcases s.world.acquire_eq i with hanswer | ⟨b, hb, hanswer⟩
  · exact .broken hanswer hx
  · have hreaches : (underBreaker i x).Reaches s
        (.telling [Breaker.refusal] (.pure (.error (.circuitOpen b.name)))) _ :=
      .answered hanswer (.refl _ _)
    have hensures : (flattened (.telling [Breaker.refusal]
        (.pure (.error (.circuitOpen b.name))))).Ensures R ⟨0, []⟩ :=
      ensures_flattened (.telling (.returned (hrefused b hb)))
    exact .of_reaches (hreaches.bind _) rfl (.of_ensures hensures _)

/-- A call is refused by its bulkhead, or goes on as it would without it. -/
private theorem held_begins (i : Nat)
    (hx : ∀ s' : Scene, s'.world.breakers = s.world.breakers → Begins R x s')
    (hrefused : ∀ b, s.world.bulkheads[i]? = some b → b.admits = false →
      R ⟨0, []⟩ (.error (.bulkheadFull b.name b.policy.maxConcurrent))) :
    Begins R (flattened (underBulkhead i x)) s := by
  rcases s.world.enter_eq i with ⟨-, hanswer⟩ | ⟨-, b, hb, hadmits, hanswer⟩
  · have hbreakers : (s.world.enter i).2.breakers = s.world.breakers :=
      (World.SameBreakers.enter s.world i).breakers
    exact .held hanswer (hx { s with world := (s.world.enter i).2 } hbreakers)
  · have hreaches : (underBulkhead i x).Reaches s _ _ := .answered hanswer (.refl _ _)
    exact .of_reaches (hreaches.bind _) rfl (.of_ensures (.returned (hrefused b hb hadmits)) _)

/-- A bulkhead that refuses a call was there before the call, as a new one has permits left. -/
theorem stored_of_refuses {asked : Option BulkheadPolicy} {made : Option BreakerPolicy}
    {w w' : World} (hregisters : World.Registers name (w.madeBulkhead name asked) made w w')
    (hvalid : ∀ p ∈ asked, p.validate = .ok ()) {i : Nat} {b : Bulkhead}
    (hi : w'.registry.bulkheads.find? (bulkheadKey name) = some i)
    (hb : w'.bulkheads[i]? = some b) (hfull : b.admits = false) :
    w.bulkhead? (bulkheadKey name) = some b := by
  -- Nothing was made, so what is there was there before; or something was made, and does not
  -- refuse.
  cases hmade : w.madeBulkhead name asked with
  | none =>
    rw [hmade] at hregisters
    have hsame : w'.bulkheads = w.bulkheads := by simpa using hregisters.bulkheads
    have hfind := hregisters.find_bulkhead
    rw [World.bulkhead?, ← show _ = w.registry.bulkheads.find? (bulkheadKey name) from hfind, hi]
    show w.bulkheads[i]? = some b
    rw [← hsame, hb]
  | some p =>
    have hfresh := hregisters.bulkhead?_eq hmade
    rw [World.bulkhead?, hi] at hfresh
    obtain rfl : b = .fresh (bulkheadKey name) p := Option.some.inj (hb.symm.trans hfresh)
    have hp : p.validate = .ok () := hvalid p (Option.filter_eq_some_iff.1 hmade).1
    have hpos := Bulkhead.maxConcurrent_pos hp
    have hzero : p.maxConcurrent = 0 := Decidable.not_not.1 (of_decide_eq_false hfull)
    simp [hzero] at hpos

/-- A call that found its layers is refused by one of them, or is let in. -/
private theorem layered_begins {w : World} {layers : Layers} {made : Option BreakerPolicy}
    (hnamed : s.world.Named)
    (hregisters : World.Registers name (w.madeBulkhead name options.bulkhead) made w s.world)
    (hresolved : Resolved name options s.world (.ok layers)) :
    Begins (Meaning name options script w) (layered layers script.operation) s := by
  obtain ⟨bulkhead, breaker, deadline, retry⟩ := layers
  cases hresolved with
  | found hvalid hbulkhead hbreaker hdeadline hretry =>
  have hdeadline : deadline = _ := hdeadline
  have hretry : retry = _ := hretry
  have hattempted := ensures_attempt (timeoutKey name) script options.timeout
  rw [← hdeadline] at hattempted
  have hconcluded := ensures_retried name (p := ⟨0, []⟩) hvalid hattempted rfl
  rw [← hretry] at hconcluded
  have hretried := hconcluded.mono fun q result ⟨hq, h⟩ => Meaning.letIn (w := w) hq h
  -- The bulkhead leaves the breakers alone.
  have hbroken : ∀ s' : Scene, s'.world.breakers = s.world.breakers →
      Begins (Meaning name options script w)
        (layered ⟨none, breaker, deadline, retry⟩ script.operation) s' := by
    intro s' hs'
    cases hbreaker with
    | absent => exact .of_ensures hretried s'
    | found hasked hfound =>
      refine broken_begins _ hretried fun b hb => ?_
      obtain ⟨c, hc, hname⟩ := hnamed.breaker _ _ hfound
      obtain rfl : b = c := Option.some.inj (hb.symm.trans (hs' ▸ hc))
      rw [hname]
      exact .refused rfl (.circuitOpen (by rw [hasked]; rfl))
  cases hbulkhead with
  | absent => exact hbroken s rfl
  | found hasked hfound =>
    refine held_begins _ hbroken fun b hb hfull => ?_
    obtain ⟨c, hc, hname⟩ := hnamed.bulkhead _ _ hfound
    obtain rfl : b = c := Option.some.inj (hb.symm.trans hc)
    have hstored := stored_of_refuses hregisters hvalid.bulkhead hfound hb hfull
    rw [hname]
    exact .refused rfl (.bulkheadFull (by rw [hasked]; rfl) hstored)

/-- A call ensures what its result means. -/
theorem call_begins (name : String) (options : Options) (script : Script β)
    (hnamed : s.world.Named) :
    Begins (Meaning name options script s.world) (call name options script.operation) s := by
  obtain ⟨answer, s', hreaches, hrecord, hregisters, hresolved⟩ :=
    resolve_resolves (β := β) name options s
  refine .reported name (.of_reaches (hreaches.bind _) hrecord ?_)
  cases answer with
  | error e =>
    cases hresolved with
    | refused hfault => exact .of_ensures (.returned (.refused rfl (.invalid hfault))) _
  | ok layers =>
    exact layered_begins (World.abiding_named.reaches hreaches hnamed) hregisters hresolved

/-! ## The meaning of a result -/

/-- What the result of a call says that was made in the world `w`, made `made` attempts and used the
outcomes `used` from outside. -/
structure Explained (name : String) (options : Options) (script : Script β) (w : World)
    (made : Nat) (used : List (Outcome β)) (result : Except (Fault OperationError) β) : Prop where
  /-- No attempt was made if and only if a layer refused the call or a policy was not in order. -/
  made_eq_zero_iff : made = 0 ↔ ∃ fault, result = .error fault ∧
    (fault.kind = .bulkheadFull ∨ fault.kind = .circuitOpen ∨ fault.kind = .invalidConfiguration)
  isRejection : ∀ fault, result = .error fault → fault.isRejection = true → made = 0
  bulkheadFull : ∀ key limit, result = .error (.bulkheadFull key limit) →
    options.bulkhead.isSome ∧ key = bulkheadKey name ∧
      ∃ b, w.bulkhead? key = some b ∧ limit = b.policy.maxConcurrent
  circuitOpen : ∀ key, result = .error (.circuitOpen key) →
    options.breaker.isSome ∧ key = breakerKey name
  invalidConfiguration : ∀ message, result = .error (.invalidConfiguration message) →
    ∃ e, options.fault? = some e ∧ message = e.message
  /-- Exhausted retries bring the last attempt's own failure. -/
  retryExhausted : ∀ key attempts last, result = .error (.retryExhausted key attempts last) →
    key = retryKey name ∧ (∃ p, options.retry = some p ∧ attempts = p.maxAttempts) ∧
      made = attempts.toNat ∧ (script.attempt (made - 1)).Yields options.timeout used (.error last)
  /-- A failure that stands for itself is the last attempt's own. -/
  failed : ∀ fault, result = .error fault → fault.kind = .operation ∨ fault.kind = .timedOut →
    (script.attempt (made - 1)).Yields options.timeout used (.error fault) ∧
      ∀ p ∈ options.retry, p.accepts (Failure.layered fault).unwrapped = false
  value : ∀ v, result = .ok v → (script.attempt (made - 1)).Yields options.timeout used (.ok v)

/-- A refusal is one of three kinds. -/
theorem Refusal.kind {w : World} {fault : Fault OperationError} (h : Refusal name options w fault) :
    fault.kind = .bulkheadFull ∨ fault.kind = .circuitOpen ∨
      fault.kind = .invalidConfiguration := by
  cases h with
  | bulkheadFull => exact .inl rfl
  | circuitOpen => exact .inr (.inl rfl)
  | invalid => exact .inr (.inr rfl)

theorem Meaning.explained {w : World} {made : Nat} {used : List (Outcome β)}
    {result : Except (Fault OperationError) β}
    (h : Meaning name options script w ⟨made, used⟩ result) :
    Explained name options script w made used result := by
  cases h with
  | refused hq h =>
    have hmade : made = 0 := hq
    have hkind := h.kind
    refine ⟨⟨fun _ => ⟨_, rfl, hkind⟩, fun _ => hmade⟩, fun _ _ _ => hmade, ?_, ?_, ?_, ?_, ?_, ?_⟩
    all_goals cases h
    all_goals simp_all [Fault.kind]
  | letIn hq h =>
    have hmade : made ≠ 0 := Nat.ne_of_gt hq
    cases h with
    | value h =>
      exact ⟨by simp [hmade], by simp, by simp, by simp, by simp, by simp, by simp,
        fun v' heq => Except.ok.inj heq ▸ h⟩
    | @failed fault h hretry =>
      have hlast : (script.attempt (made - 1)).Yields options.timeout used (.error fault) := h
      -- Only the failure of an attempt is left for a fault that stands for itself.
      cases fault with
      | circuitOpen | bulkheadFull | retryExhausted | invalidConfiguration =>
        exact absurd hlast.kind (by simp [Fault.kind])
      | operation | timedOut =>
        refine ⟨by simp [hmade, Fault.kind], by simp [Fault.isRejection], by simp, by simp,
          by simp, by simp, fun fault' heq _ => ?_, by simp⟩
        obtain rfl := Except.error.inj heq
        exact ⟨hlast, hretry⟩
    | exhausted hp h hretry hlast =>
      refine ⟨by simp [hmade, Fault.kind], by simp [Fault.isRejection], by simp, by simp, by simp,
        ?_, by simp [Fault.kind], by simp⟩
      rintro key attempts last heq
      obtain ⟨rfl, rfl, rfl⟩ := Fault.retryExhausted.inj (Except.error.inj heq)
      exact ⟨rfl, ⟨_, hp, rfl⟩, hlast, h⟩

/-- What results mean, for every orchestrator that is used from its beginning on in any way. -/
theorem result_explained (listening : Bool)
    (before : List (Floor.Use β (Except (Fault OperationError) β))) (name : String)
    (options : Options) (script : Script β) :
    let f := (Floor.ofWorld (.start listening)).uses before
    let x := call name options script.operation
    (∀ result, (f.call x).1.ending = some (.returned result) →
      Explained name options script f.world (f.call x).1.starts.length [] result) ∧
    ∀ id, f.Unused id → ∀ after : List (Floor.Use β _),
      (∀ u ∈ after, ∀ y, u ≠ .step (.start id y)) →
      ∀ report, (id, report) ∈ ((f.start id x).uses after).completed →
        ∀ result, report.ending = some (.returned result) →
          ∃ used, used <+: Floor.fedTo id after ∧
            Explained name options script f.world report.starts.length used result := by
  intro f x
  have hnamed : f.world.Named := Floor.named_of_start listening before
  obtain ⟨y, s, hreaches, hrecord, hensures⟩ :=
    call_begins (s := ⟨f.world, .empty⟩) name options script hnamed
  refine ⟨fun result hresult => ?_, fun id hunused after hafter report hreport result hresult => ?_⟩
  -- In the foreground the attempts are those of the record.
  · have hforeground : Floor.foreground x .empty f =
        Floor.foreground y s.record { f with world := s.world } := hreaches.foreground_eq f
    have hbegan : s.record.starts.size = 0 := by
      rw [hrecord]
      rfl
    have hending : (Floor.foreground y s.record { f with world := s.world }).1 =
        some (.returned result) := by
      rw [← hforeground]
      exact hresult
    have hmeaning := hensures.foreground hbegan _ hending
    have hlength : (f.call x).1.starts.length =
        (Floor.foreground y s.record { f with world := s.world }).2.1.starts.size := by
      rw [← hforeground]
      simp [Floor.call, Record.report]
    rw [hlength]
    exact hmeaning.explained
  -- In the background some of the outcomes that were fed to the call may have been used.
  · obtain ⟨used, hused, hmeaning⟩ := Floor.shows_of_ensures hunused hreaches hrecord hensures
      hafter hreport result hresult
    exact ⟨used, hused, hmeaning.explained⟩

/-- A call that may make one attempt waits for its outcome, which is an error. -/
theorem result_explained_exhausted :
    let options := { Options.none with
      retry := some { RetryPolicy.standard with maxAttempts := 1 } }
    let script : Script Nat := .repeating .gated
    let f := (Floor.ofWorld (.start true)).uses []
    let after := [.step (.feed "first" (.error ⟨"down"⟩))]
    let g := (f.start "first" (call "api" options script.operation)).uses after
    let result := .error (.retryExhausted "apiRetry" 1 (.operation ⟨"down"⟩))
    f.Unused "first" ∧ (∀ u ∈ after, ∀ x, u ≠ .step (.start "first" x)) ∧
      g.completed = [("first", ⟨some (.returned result), [0], 1, some 0⟩)] ∧
      ∃ used, used <+: [.error ⟨"down"⟩] ∧
        Explained "api" options script f.world 1 used result := by
  intro options script f after g result
  have hunused : f.Unused "first" := ⟨nofun, nofun⟩
  have hafter : ∀ u ∈ after, ∀ x, u ≠ .step (.start "first" x) := by
    intro u hu x heq
    rw [List.mem_singleton.1 hu] at heq
    cases heq
  have hcompleted : g.completed = [("first", ⟨some (.returned result), [0], 1, some 0⟩)] := by
    decide +kernel
  obtain ⟨used, hused, hexplained⟩ := (result_explained true [] "api" options script).2 "first"
    hunused after hafter _ (hcompleted ▸ List.mem_singleton_self _) result rfl
  exact ⟨hunused, hafter, hcompleted, used, hused, hexplained⟩

end Orchestrator

end Safeguard
