import Safeguard.Proofs.OuterLayers

/-!
# Orchestrated retries and plain retries

Under an orchestrated call every attempt fails with the fault of a layer, so the retry policy is
asked about a wrapped error, the fault of the retries wraps it once more, and two levels of faults
become one at the end. Plain retries of the same operation know of none of this. The two agree all
the same, attempt by attempt, for any predicate (`agrees_attempts`), also if there is a deadline
that no attempt exceeds.

## Key results

- `agrees_attempt`: one attempt of a plan, under a deadline that spares it
- `agrees_attempts`: the loop from any attempt on
- `retries_as_plain`: an orchestrated call with retries alone
-/

namespace Safeguard

open Activity (Agrees)

variable {β γ : Type}

/-- Whether a signal reports a retry. -/
def Signal.isRetry : Signal → Bool
  | retryAttempt _ _ => true
  | _ => false

namespace TimeoutPolicy

/-- An attempt of this delay is not dropped. An advisory deadline never drops an attempt. -/
def Spares (t : TimeoutPolicy) (delay : Duration) : Prop :=
  t.mode = .cancel → delay.sleepMillis ≤ t.limit.ceilMillis

/-- An attempt that is due when its time is up still ends. -/
private theorem spares_of_le {t : TimeoutPolicy} {delay : Duration} (h : delay ≤ t.limit) :
    t.Spares delay := by
  intro _
  exact Nat.le_trans (Duration.sleepMillis_le delay) (Duration.ceilMillis_le h)

end TimeoutPolicy

/-! ## One attempt -/

/-- A deadline lets an effect pass and goes on with what follows it. -/
private theorem Activity.deadline_act {α : Type} (budget : Nat) (e : Effect)
    (next : e.Answer → Activity β α) :
    (Activity.act e next).deadline budget = .act e fun a => (next a).deadline budget := rfl

variable {plan : Nat → Trial OperationError γ}

namespace Trial

/-- Attempt `n` of a plan, counted from zero, ends with a result, and `wrapped` is what a layer
makes of it. -/
def EndsWith {α : Type} (plan : Nat → Trial OperationError γ) (n : Nat)
    (wrap : Except OperationError γ → α) (made : Nat) (wrapped : α)
    (result : Except OperationError γ) : Prop :=
  made = n + 1 ∧ (plan n).ending = .returned result ∧ wrapped = wrap result

variable {seen : Signal → Bool} {n : Nat}

/-- The end of an attempt, and what a layer makes of it. -/
private theorem agrees_conclude {α : Type} {wrap : Except OperationError γ → α} {ending : Ending α}
    (h : ending = (plan n).ending.map wrap) :
    (.act .conclude fun _ => .ended ending : Activity β α).Agrees seen (EndsWith plan n wrap)
      (n + 1) (.act .conclude fun _ => .ended (plan n).ending) := by
  refine .act trivial nofun fun _ => ?_
  subst h
  cases hend : (plan n).ending with
  | returned result => exact .returned ⟨rfl, hend, rfl⟩
  | panicked message => exact .panicked message

variable (plan)

/-- An attempt that no deadline drops. -/
private theorem agrees_operation (n : Nat) : (operation plan : Activity β _).Agrees seen
    (EndsWith plan n id) n (operation plan) := by
  have hending : (plan n).ending = (plan n).ending.map id := by
    cases (plan n).ending <;> rfl
  refine .invoke ((Agrees.sleep _ _).bind fun m _ _ hm => ?_)
  subst hm
  exact agrees_conclude hending

/-- What is left of an attempt that takes `ms` milliseconds, under a deadline that is not over
before. -/
private theorem agrees_waited {ms budget : Nat} (h : ms ≤ budget) :
    (((Activity.sleep true ms).bind fun _ => .act .conclude fun _ =>
      .ended (plan n).ending : Activity β _).deadline budget).Agrees seen (EndsWith plan n some)
        (n + 1) ((Activity.sleep true ms).bind fun _ => .act .conclude fun _ =>
          .ended (plan n).ending) := by
  -- An attempt that takes no time does not wait, and its deadline has nothing to end.
  unfold Activity.sleep
  split
  · next hpos =>
    have hbudget : budget ≠ 0 := by omega
    have hends : (Wait.forMillis true ms hpos).endsWithin budget = true := by
      simpa [Wait.endsWithin, Wait.forMillis] using h
    show Agrees _ _ _ ((Activity.wait _ _).deadline budget) _
    rw [Activity.deadline, dif_neg hbudget, if_pos hends]
    exact .wait fun _ => agrees_conclude rfl
  · exact agrees_conclude rfl

/-- An attempt that ends before its deadline, or when its time is up. -/
private theorem agrees_deadline {budget : Nat} (h : (plan n).delay.sleepMillis ≤ budget) :
    ((operation plan : Activity β _).deadline budget).Agrees seen (EndsWith plan n some) n
      (operation plan) := by
  -- Only this step of the deadline is unfolded, so that the delay is not computed with.
  have hdeadline : (operation plan : Activity β _).deadline budget = _ :=
    Activity.deadline_act budget .invoke _
  rw [hdeadline]
  exact .invoke (agrees_waited plan h)

end Trial

namespace Orchestrator

open Trial (EndsWith)

/-- An attempt of a plan under a deadline that spares it. -/
theorem agrees_attempt (name : String) (plan : Nat → Trial OperationError γ)
    {timeout : Option TimeoutPolicy} {n : Nat}
    (hspares : ∀ t ∈ timeout, t.Spares (plan n).delay) :
    (attempt (timeout.map (⟨name, ·⟩)) (Trial.operation plan) : Activity β _).Agrees Signal.isRetry
      (EndsWith plan n (·.mapError .operation)) n (Trial.operation plan) := by
  -- Without a deadline, with one that drops the attempt late, and with one that only measures it.
  cases timeout with
  | none =>
    refine (Trial.agrees_operation plan n).map_left fun m wrapped result ⟨hm, hend, heq⟩ => ?_
    exact ⟨hm, hend, congrArg _ heq⟩
  | some t =>
    show ((⟨name, t⟩ : Deadline).guard _).Agrees _ _ _ _
    unfold Deadline.guard
    split
    · next hmode =>
      refine (Trial.agrees_deadline plan (hspares t rfl hmode)).bind_left
        fun m wrapped result ⟨hm, hend, heq⟩ => ?_
      subst heq
      exact .returned ⟨hm, hend, rfl⟩
    · -- The attempt is measured, and an overrun is not a retry.
      refine .left trivial fun (began : Nat) => (Trial.agrees_operation plan n).bind_left
        fun m wrapped result ⟨hm, hend, heq⟩ => .left trivial fun (now : Nat) => ?_
      subst heq
      refine .telling_left (fun notice hnotice => ?_) (.returned ⟨hm, hend, rfl⟩)
      unfold Deadline.overrun at hnotice
      split at hnotice
      · simp only [List.mem_cons, List.not_mem_nil, or_false] at hnotice
        rcases hnotice with rfl | rfl
        · trivial
        · rfl
      · simp at hnotice

end Orchestrator

/-! ## The loop -/

namespace Retry

open Trial (EndsWith)

variable {policy : RetryPolicy}

/-- The fault of orchestrated retries stands for that of plain ones. -/
def StandsFor (_ : Nat) (wrapped : Except (Fault (Fault OperationError)) γ)
    (result : Except (Fault OperationError) γ) : Prop :=
  wrapped.mapError .flatten = result

/-- A value after the same number of attempts. -/
private theorem agrees_success (made : UInt32) (v : γ) (n : Nat) :
    (success made v : Activity β (Except (Fault (Fault OperationError)) γ)).Agrees Signal.isRetry
      StandsFor n (success made v : Activity β (Except (Fault OperationError) γ)) := by
  unfold success
  split
  · exact .returned rfl
  · exact .telling _ (.returned rfl)

/-- What follows an attempt. The orchestrated policy is asked about the fault of a layer, the plain
one about the operation's own error. -/
private theorem agrees_following (name : String)
    {attempted : Activity β (Except (Fault OperationError) γ)}
    {operation : Activity β (Except OperationError γ)} {left n : Nat} {made : UInt32}
    {result : Except OperationError γ}
    (hagain : ∀ e left', result = .error e → policy.accepts (Seen.failure e) = true →
      left = left' + 1 → (attempts name policy.unwrapping attempted left' (made + 1)).Agrees
        Signal.isRetry StandsFor n (attempts name policy operation left' (made + 1))) :
    (following name policy.unwrapping attempted left made (result.mapError .operation)).Agrees
      Signal.isRetry StandsFor n (following name policy operation left made result) := by
  -- After a value there is no difference. After an error the two policies are asked about different
  -- failures and answer alike.
  cases result with
  | ok v => exact agrees_success made v n
  | error e =>
    have haccepts : policy.unwrapping.accepts (Seen.failure (Fault.operation e)) =
        policy.accepts (Seen.failure e) := RetryPolicy.accepts_unwrapping _ _
    simp only [mapError_error, following, haccepts]
    split
    · next hyes =>
      cases left with
      | zero => exact .logging (.returned rfl)
      | succ left =>
        -- The delay is the same, and the next attempt is told in the same way.
        refine .logging ((Agrees.sleep _ _).bind fun m _ _ hm => .telling _ ?_)
        subst hm
        exact hagain e left rfl hyes rfl
    · exact .logging (.returned rfl)

/-- A run arrives at attempt `n`, counted from zero, if none before it is the last. -/
def Arrives (policy : RetryPolicy) (plan : Nat → Trial OperationError γ) (n : Nat) : Prop :=
  ∀ i, 1 ≤ i → i ≤ n → ¬ StopsAt policy plan i

/-- The loop from attempt `n` on, if every attempt that it arrives at ends in the same way. -/
theorem agrees_attempts (name : String) {attempted : Activity β (Except (Fault OperationError) γ)}
    (hattempted : ∀ n, Arrives policy plan n → attempted.Agrees Signal.isRetry
      (EndsWith plan n (·.mapError .operation)) n (Trial.operation plan))
    {left n : Nat} (hbudget : n + left + 1 = policy.maxAttempts.toNat)
    (harrives : Arrives policy plan n) :
    (attempts name policy.unwrapping attempted left (.ofNat n)).Agrees Signal.isRetry StandsFor n
      (attempts name policy (Trial.operation plan) left (.ofNat n)) := by
  -- Induction on the attempts left, with the number of the next one as the loop's invariant.
  induction left generalizing n with
  | zero =>
    rw [attempts_eq, attempts_eq]
    refine (hattempted n harrives).bind fun m wrapped result ⟨hm, hend, heq⟩ => ?_
    subst hm heq
    exact agrees_following name fun e left' _ _ hleft => absurd hleft (by omega)
  | succ left ih =>
    rw [attempts_eq, attempts_eq]
    refine (hattempted n harrives).bind fun m wrapped result ⟨hm, hend, heq⟩ => ?_
    subst hm heq
    refine agrees_following name fun e left' he haccepts hleft => ?_
    obtain rfl : left = left' := by omega
    rw [ofNat_add_one]
    refine ih (by omega) fun i hone hle => ?_
    rcases Nat.lt_or_eq_of_le hle with hlt | rfl
    · exact harrives i hone (by omega)
    · -- Attempt `n` fails, is worth another one, and one is permitted.
      have hmore : n + 1 ≠ policy.maxAttempts.toNat := by omega
      simp [StopsAt, hend, he, haccepts, hmore]

/-- The retry layer. -/
private theorem agrees_run (name : String) (hvalid : policy.validate = .ok ())
    {attempted : Activity β (Except (Fault OperationError) γ)}
    (hattempted : ∀ n, Arrives policy plan n → attempted.Agrees Signal.isRetry
      (EndsWith plan n (·.mapError .operation)) n (Trial.operation plan)) :
    (run name policy.unwrapping attempted).Agrees Signal.isRetry StandsFor 0
      (run name policy (Trial.operation plan)) := by
  have hpos := maxAttempts_pos_of_validate hvalid
  have hunwrapping : policy.unwrapping.validate = .ok () := hvalid
  have hbudget : 0 + (policy.maxAttempts.toNat - 1) + 1 = policy.maxAttempts.toNat := by omega
  unfold run
  rw [hvalid, hunwrapping]
  exact agrees_attempts name hattempted hbudget fun i hone hle => absurd hone (by omega)

/-- Plain retries go on up to the first attempt that is the last. -/
private theorem length_starts_run (name : String) (hvalid : policy.validate = .ok ())
    (f : Floor β (Except (Fault OperationError) γ)) {last : Nat}
    (hlast : IsLeast {i | 1 ≤ i ∧ StopsAt policy plan i} last) :
    (f.call (run name policy (Trial.operation plan))).1.starts.length = last := by
  obtain ⟨⟨hone, hstop⟩, hleast⟩ := hlast
  have hpos := maxAttempts_pos_of_validate hvalid
  have hbudget : 0 + (policy.maxAttempts.toNat - 1) + 1 = policy.maxAttempts.toNat := by omega
  have hmore : 0 + (last - 1) + 1 = last := by omega
  obtain ⟨t, s', hruns, hsights, -⟩ := runs_attempts (β := β) name (k := 0) (s := ⟨f.world, .empty⟩)
    rfl hbudget (hmore.symm ▸ hstop)
    (fun i hi hle hi' => absurd (hleast ⟨hi, hi'⟩) (by omega)) (rfl : f.world.now = f.world.now + 0)
  have hrun : (run name policy (Trial.operation plan) : Activity β _) =
      attempts name policy (Trial.operation plan) (policy.maxAttempts.toNat - 1) (.ofNat 0) := by
    simp only [run, hvalid]
    rfl
  rw [← hrun] at hruns
  -- The run is the same on the floor, whatever goes on there.
  have hcourse : f.course Signal.isRetry (run name policy (Trial.operation plan)) .empty = _ :=
    hruns.course_eq meets_run_plan rfl
  have hstarts : s'.record.starts.size = last := by
    rw [← Array.length_toList, hruns.starts_eq, hsights, attemptTimes_cons_attempt,
      attemptTimes_retrySights]
    simp only [Record.empty, List.nil_append, List.length_cons, List.length_map, List.length_range']
    omega
  rw [Floor.call_report Signal.isRetry, hcourse]
  simpa [Record.report] using hstarts

/-- Plain retries make every attempt that they arrive at. -/
private theorem lt_length_starts (name : String) (hvalid : policy.validate = .ok ())
    (f : Floor β (Except (Fault OperationError) γ)) {n : Nat} (harrives : Arrives policy plan n) :
    n < (f.call (run name policy (Trial.operation plan))).1.starts.length := by
  obtain ⟨last, hlast, -⟩ := exists_isLeast_stopsAt plan hvalid
  rw [length_starts_run name hvalid f hlast]
  by_contra hge
  exact harrives last hlast.1.1 (by omega) hlast.1.2

end Retry

/-! ## Calls -/

namespace Orchestrator

open Retry (Arrives)

/-- The report of a call is on something else than its retries. -/
private theorem hidden_report (name : String) (millis : Nat)
    (result : Except (Fault OperationError) γ) :
    ∀ notice ∈ report name millis result, Effect.Hidden Signal.isRetry (.tell notice) := by
  cases result <;> simp [report, Effect.Hidden, Signal.isRetry, Notice.log]

/-- What goes on inside a call with retries alone, and perhaps a deadline that spares every attempt,
and the report on it. -/
private theorem agrees_reported (name : String) (began : Nat) {policy : RetryPolicy}
    (hvalid : policy.validate = .ok ()) {timeout : Option TimeoutPolicy}
    (hspares : ∀ n, Arrives policy plan n → ∀ t ∈ timeout, t.Spares (plan n).delay) :
    (reported name began (inner name { Options.none with retry := some policy, timeout }
      (Trial.operation plan)) : Activity β _).Agrees Signal.isRetry (fun _ => Eq) 0
        (Retry.run (retryKey name) policy (Trial.operation plan)) := by
  have hrun := Retry.agrees_run (β := β) (retryKey name) hvalid
    fun n hn => agrees_attempt (timeoutKey name) plan (hspares n hn)
  have hflattened : (inner name { Options.none with retry := some policy, timeout }
      (Trial.operation plan) : Activity β _).Agrees Signal.isRetry (fun _ => Eq) 0
        (Retry.run (retryKey name) policy (Trial.operation plan)) :=
    hrun.map_left fun _ _ _ h => h
  refine hflattened.bind_left fun n result result' heq => .left trivial fun (now : Nat) => ?_
  exact .telling_left (hidden_report name _ result) (.returned heq)

/-- A call with retries alone goes on as plain retries of its operation under the same policy, on a
floor where anything may be under way: it ends in the same way, makes the same attempts at the same
times, and tells the same of its retries. It also does if there is a deadline, and no attempt that
the plain retries make is dropped by it. -/
theorem retries_as_plain (name : String) {policy : RetryPolicy} (hvalid : policy.validate = .ok ())
    {timeout : Option TimeoutPolicy} (htimeout : ∀ t ∈ timeout, t.validate = .ok ())
    (plan : Nat → Trial OperationError γ) (f : Floor β (Except (Fault OperationError) γ)) :
    let x := call name { Options.none with retry := some policy, timeout } (Trial.operation plan)
    let y := Retry.run (retryKey name) policy (Trial.operation plan)
    (∀ n < (f.call y).1.starts.length, ∀ t ∈ timeout, t.Spares (plan n).delay) →
      (f.call x).1 = (f.call y).1 ∧ glimpses Signal.isRetry (f.trace x .empty) =
        glimpses Signal.isRetry (f.trace y .empty) := by
  intro x y hspares
  have hoptions : { Options.none with retry := some policy, timeout }.Valid :=
    ⟨fun _ hp => Option.some.inj hp ▸ hvalid, nofun, nofun, htimeout⟩
  have hcomes : x.ComesTo Signal.isRetry ⟨f.world, .empty⟩ _ :=
    call_comes (Trial.meets_operation plan) hoptions rfl rfl
  have hagrees : Agrees Signal.isRetry (fun _ => Eq) 0 _ y :=
    agrees_reported name f.world.now hvalid fun n hn =>
      hspares n (Retry.lt_length_starts (retryKey name) hvalid f hn)
  have hcourse : f.course Signal.isRetry x .empty = f.course Signal.isRetry y .empty :=
    (hcomes.course_eq rfl).trans (hagrees.course_eq rfl rfl)
  refine ⟨?_, congrArg Course.sights hcourse⟩
  rw [Floor.call_report Signal.isRetry x, Floor.call_report Signal.isRetry y, hcourse]

/-- The policy looks for the operation's own error, and the attempts end when their time is up. -/
theorem retries_as_plain_downcast :
    let policy := { RetryPolicy.standard with predicate := some (· == .bare ⟨"down"⟩) }
    let timeout : TimeoutPolicy := ⟨.ofMillis 5, .cancel⟩
    let plan : Nat → Trial OperationError Nat := fun k =>
      ⟨.ofMillis 5, .returned (.error ⟨if k = 0 then "down" else "gone"⟩)⟩
    let f : Floor Unit (Except (Fault OperationError) Nat) := .ofWorld (.start true)
    let x := call "api" { Options.none with retry := some policy, timeout := some timeout }
      (Trial.operation plan)
    let y := Retry.run (retryKey "api") policy (Trial.operation plan)
    policy.validate = .ok () ∧ timeout.validate = .ok () ∧
      (∀ n, (plan n).delay ≤ timeout.limit) ∧
      (f.call x).1 = (f.call y).1 ∧ (f.call y).1.starts = [0, 105] ∧
      glimpses Signal.isRetry (f.trace x .empty) = glimpses Signal.isRetry (f.trace y .empty) ∧
      glimpses Signal.isRetry (f.trace y .empty) =
        [(0, .attempt), (105, .signal (.retryAttempt "apiRetry" 2)), (105, .attempt)] := by
  intro policy timeout plan f x y
  have hvalid : policy.validate = .ok () := by decide +kernel
  have htimeout : ∀ t ∈ some timeout, t.validate = .ok () := by
    intro t ht
    obtain rfl := Option.some.inj ht
    decide +kernel
  have hin (n : Nat) : (plan n).delay ≤ timeout.limit :=
    show Duration.ofMillis 5 ≤ .ofMillis 5 by decide
  have hsame := retries_as_plain "api" hvalid htimeout plan f fun n _ t ht =>
    Option.some.inj ht ▸ TimeoutPolicy.spares_of_le (hin n)
  exact ⟨hvalid, htimeout _ rfl, hin, hsame.1, by decide +kernel, hsame.2, by decide +kernel⟩

end Orchestrator

end Safeguard
