import Safeguard.Layer.Protection
import Safeguard.Proofs.FrozenBreaker
import Safeguard.Proofs.RetryCorrect

/-!
# Retries around a breaker

The retry layer waits and tries again while the breaker below it counts, across the attempts of a
call and across calls. Each attempt asks the breaker once. A closed breaker lets the operation run
and counts its failure; an open one refuses, and the loop sees the refusal like any other failure.
An attempt, the loop of a call and a series of calls are followed as one `Rounds` after another,
each in the phase that the one before has led to.

## Key results

- `exists_rounds_opened`, `exists_rounds_closed`: one attempt
- `exists_rounds_attempts`: the loop, by induction on the attempts that are left
- `exists_stretch_series`: a series of calls
- `open_breaker_stops_invocations`: an open breaker keeps all later attempts from the operation
-/

namespace Safeguard

/-! ## One attempt -/

section Attempts

variable {β γ ε : Type} {i : Nat} {made : Breaker} {φ : Phase} {s : Scene} {failures : Nat}

/-- What becomes of an admitted operation: its outcome is recorded. -/
def recording [Cause ε] (i : Nat) : Except ε γ → Activity β (Except (Fault ε) γ)
  | .ok v => .act (.settle i true) fun _ => .pure (.ok v)
  | .error e => .act (.settle i false) fun _ =>
    .telling [.log .debug "Circuit breaker recorded failure" [("error", .text (Cause.message e))]]
      (.pure (.error (.operation e)))

/-- What follows the answer of the breaker: the refusal, or the operation and the record. -/
private theorem underBreaker_eq [Cause ε] (operation : Activity β (Except ε γ)) :
    underBreaker i operation = .act (.acquire i) fun
      | .error rejection => .telling [Breaker.refusal] (.pure (.error rejection.fault))
      | .ok () => operation.bind (recording i) := by
  unfold underBreaker recording
  congr 1

variable (plan : Nat → Trial ε γ)

/-- An attempt of a plan begins and ends, and a closed breaker stays as it is meanwhile. -/
private theorem exists_walks_operation (h : (Phase.closed failures).Holds i made s.world) :
    ∃ l s', (Trial.operation plan : Activity β _).Walks s l
        (plan s.record.starts.size).ending s' ∧
      (Phase.closed failures).Holds i made s'.world ∧
      Leads i made (.closed failures) l (.closed failures) ∧
      invocations l = 1 ∧ admissionsAsked i l = 0 := by
  have hafter : (Phase.closed failures).Holds i made
    ((plan s.record.starts.size).after s).world := h.after _
  exact ⟨_, _, .act (.bind (.sleep true _ _) (.act (.ended _ _))), hafter,
    .stepClosed (h.of_same rfl rfl) (.stepClosed hafter (.nil _)), rfl, rfl⟩

variable [Cause ε]

/-- A failure is counted, and a success puts the count back to zero. -/
private theorem exists_walks_recording (h : (Phase.closed failures).Holds i made s.world)
    (result : Except ε γ) :
    ∃ l ending s' φ', (recording i result : Activity β _).Walks s l ending s' ∧
      φ'.Holds i made s'.world ∧ Leads i made (.closed failures) l φ' ∧
      invocations l = 0 ∧ admissionsAsked i l = 0 ∧
      ∀ e, result = .error e → φ' = (Phase.closed failures).failed made.policy := by
  cases result with
  | ok v =>
    exact ⟨_, _, _, .closed 0, .act (.ended _ _), h.succeed, .stepClosed h.succeed (.nil _), rfl,
      rfl, fun e he => by cases he⟩
  | error e =>
    obtain ⟨l, s', hbeside, hwalks⟩ := exists_walks_told (β := β)
      (s := (s.perform (.settle i false)).2)
      [.log .debug "Circuit breaker recorded failure" [("error", .text (Cause.message e))]]
      (.error (.operation e) : Except (Fault ε) γ) h.fail
    exact ⟨_, _, s', _, .act hwalks, hbeside.holds, .stepClosed h.fail hbeside.leads,
      hbeside.invoked, hbeside.asked, fun _ _ => rfl⟩

variable (i made) in
/-- The activity `x` takes the steps `l`, which ask the breaker for admission once at least and
`most` times at most. If it is refused, now or later, it ends with `refusal`. -/
structure Rounds {α : Type} (fails : Prop) (most : Nat) (refusal : Ending α) (x : Activity β α)
    (s : Scene) (φ : Phase) (l : List (Scene × Effect)) (ending : Ending α) (s' : Scene)
    (φ' : Phase) : Prop where
  walks : x.Walks s l ending s'
  stretch : Stretch i made fails φ l s' φ'
  asked : 1 ≤ admissionsAsked i l
  asked_le : admissionsAsked i l ≤ most
  refused : (∃ p ∈ l, Refused i made p) → ending = refusal

/-- An attempt under the open breaker is refused. -/
theorem exists_rounds_opened (hreset : 0 < made.policy.resetTimeout.nanos) (fails : Prop)
    (operation : Activity β (Except ε γ)) (h : Phase.opened.Holds i made s.world) :
    ∃ l ending s' φ', Rounds i made fails 1 (.returned (.error (.circuitOpen made.name)))
      (underBreaker i operation) s .opened l ending s' φ' := by
  obtain ⟨hanswer, hafter⟩ := h.refused hreset
  obtain ⟨l, s', hbeside, hwalks⟩ := exists_walks_told (β := β)
    (s := (s.perform (.acquire i)).2) [Breaker.refusal]
    (.error (.circuitOpen made.name) : Except (Fault ε) γ) hafter
  -- The refusal asks for admission once and runs nothing.
  have hasked : admissionsAsked i ((s, .acquire i) :: l) = 1 := by
    rw [admissionsAsked_acquire, hbeside.asked]
  have hleads : Leads i made .opened ((s, .acquire i) :: l) .opened :=
    .step hafter (fun _ => ⟨rfl, by simp, fun _ => hanswer⟩) hbeside.leads
  rw [underBreaker_eq]
  refine ⟨_, _, s', .opened, .answered hanswer hwalks, ⟨hbeside.holds, hleads, fun _ => ?_⟩,
    hasked.ge, hasked.le, fun _ => rfl⟩
  rw [hasked, invocations_acquire, hbeside.invoked]
  simp [Phase.room]

/-- An attempt under a closed breaker runs the operation once and records what becomes of it. -/
theorem exists_rounds_closed {fails : Prop}
    (hfails : fails → ∀ k, ∃ e, (plan k).ending = .returned (.error e))
    (h : (Phase.closed failures).Holds i made s.world) :
    ∃ l ending s' φ', Rounds i made fails 1 (.returned (.error (.circuitOpen made.name)))
      (underBreaker i (Trial.operation plan) : Activity β _) s (.closed failures) l ending s'
      φ' := by
  obtain ⟨hanswer, hadmitted⟩ := h.admitted
  obtain ⟨l, s', hwalks, hholds, hleads, hinvoked, hasked⟩ :=
    exists_walks_operation (β := β) (s := (s.perform (.acquire i)).2) plan hadmitted
  rw [underBreaker_eq]
  generalize hending : (plan _).ending = ending at hwalks
  cases ending with
  | panicked message =>
    -- Nothing is recorded.
    refine ⟨_, _, s', .closed failures, .answered hanswer hwalks.bind_panicked,
      ⟨hholds, .stepClosed hadmitted hleads, fun hf => ?_⟩, ?_, ?_,
      fun h' => absurd h' (not_refused_of_admitted hanswer hasked)⟩
    · obtain ⟨e, he⟩ := hfails hf _
      cases hending.symm.trans he
    · rw [admissionsAsked_acquire]
      omega
    · rw [admissionsAsked_acquire, hasked]
  | returned result =>
    obtain ⟨l', ending, s'', φ', hwalks', hholds', hleads', hinvoked', hasked', hfailed⟩ :=
      exists_walks_recording (β := β) hholds result
    have hnone : admissionsAsked i (l ++ l') = 0 := by
      rw [admissionsAsked_append, hasked, hasked']
    have hone : invocations (l ++ l') = 1 := by
      rw [invocations_append, hinvoked, hinvoked']
    refine ⟨_, ending, s'', φ', .answered hanswer (hwalks.bind hwalks'),
      ⟨hholds', .stepClosed hadmitted (hleads.append hleads'), fun hf => ?_⟩, ?_, ?_,
      fun h' => absurd h' (not_refused_of_admitted hanswer hnone)⟩
    · -- The operation has failed, and the failure takes one from the room.
      obtain ⟨e, he⟩ := hfails hf _
      have herror : result = .error e := by simpa using hending.symm.trans he
      obtain ⟨-, -, -, -, -, -, hlt⟩ := h
      have hroom : 0 < (Phase.closed failures).room made.policy := Nat.sub_pos_of_lt hlt
      rw [admissionsAsked_acquire, invocations_acquire, hnone, hone, hfailed e herror,
        Phase.room_failed hlt]
      omega
    · rw [admissionsAsked_acquire]
      omega
    · rw [admissionsAsked_acquire, hnone]

/-- One attempt under the breaker, in any phase. -/
private theorem exists_rounds_guarded (hreset : 0 < made.policy.resetTimeout.nanos) {fails : Prop}
    (hfails : fails → ∀ k, ∃ e, (plan k).ending = .returned (.error e))
    (h : φ.Holds i made s.world) :
    ∃ l ending s' φ', Rounds i made fails 1 (.returned (.error (.circuitOpen made.name)))
      (underBreaker i (Trial.operation plan) : Activity β _) s φ l ending s' φ' := by
  cases φ with
  | opened => exact exists_rounds_opened hreset fails _ h
  | closed failures => exact exists_rounds_closed plan hfails h

end Attempts

/-! ## The loop -/

section Loop

variable {β γ ε : Type} [Seen (Fault ε)] {i : Nat} {made : Breaker} {φ φ' : Phase}
  {s s' : Scene} {l : List (Scene × Effect)} (name : String) {policy : RetryPolicy} {left k : Nat}

/-- After the last attempt of a call no other step concerns the breaker. -/
private theorem exists_walks_stop (operation : Activity β (Except (Fault ε) γ))
    (hbudget : k + left + 1 = policy.maxAttempts.toNat) {result : Except (Fault ε) γ}
    (hstop : ∀ e, result = .error e → policy.accepts (Seen.failure e) = true → left = 0)
    (h : φ.Holds i made s.world) :
    ∃ l s', Beside i made φ l s' ∧
      (Retry.following name policy operation left (.ofNat k) result).Walks s l
        (Retry.verdict name policy (.returned result)) s' := by
  -- A value, an error that is worth no other attempt, or the last attempt of the budget.
  cases result with
  | ok v =>
    simp only [Retry.following, Retry.success, Retry.verdict]
    split
    · exact ⟨[], s, .nil h, .ended _ _⟩
    · exact exists_walks_told _ _ h
  | error e =>
    cases haccepts : policy.accepts (Seen.failure e) with
    | false =>
      simp only [Retry.following, Retry.verdict, haccepts, Bool.false_eq_true, if_false]
      exact exists_walks_told _ _ h
    | true =>
      obtain rfl : left = 0 := hstop e rfl haccepts
      have hmax : k + 1 = policy.maxAttempts.toNat := by omega
      simp only [Retry.following, Retry.verdict, haccepts, if_true, Retry.ofNat_add_one, hmax,
        UInt32.ofNat_toNat]
      exact exists_walks_told _ _ h

variable (policy) in
/-- Between two attempts no step concerns the breaker. -/
private theorem exists_walks_again (attempt : UInt32) (e : Fault ε) (h : φ.Holds i made s.world) :
    ∃ l s', Beside i made φ l s' ∧
      ∀ {next : Activity β (Except (Fault (Fault ε)) γ)} {l' ending s''},
        next.Walks s' l' ending s'' →
          (Retry.again name policy attempt e next).Walks s (l ++ l') ending s'' := by
  obtain ⟨l, s', hbeside, hwalks⟩ := exists_walks_telling (β := β)
    [.log .debug "Operation failed, retrying"
      [("attempt", .number attempt.toNat), ("delay", .text (policy.delayFor attempt).text),
        ("error", .text (Cause.message e))]] h
  -- The delay passes on the clock of the calls, and the one of the breaker stands still.
  have hlater := hbeside.holds.after (policy.delayFor attempt).sleepMillis
  obtain ⟨l', s'', hbeside', hwalks'⟩ := exists_walks_telling (β := β)
    (s := { s' with world := s'.world.after (policy.delayFor attempt).sleepMillis })
    [.signal (.retryAttempt name (attempt + 1))] hlater
  refine ⟨l ++ l', s'', hbeside.append hbeside', fun hnext => ?_⟩
  rw [List.append_assoc]
  exact hwalks ((Activity.Walks.sleep false _ s').bind (hwalks' hnext))

variable {fails : Prop} {refusal : Fault ε} {operation : Activity β (Except (Fault ε) γ)}

/-- An attempt that no other one follows ends the loop as it ends. -/
theorem Rounds.last {ending : Ending (Except (Fault ε) γ)}
    (h : Rounds i made fails 1 (.returned (.error refusal)) operation s φ l ending s' φ')
    (hbudget : k + left + 1 = policy.maxAttempts.toNat)
    (hstop : ∀ e, ending = .returned (.error e) → policy.accepts (Seen.failure e) = true →
      left = 0) :
    ∃ l ending s' φ', Rounds i made fails (left + 1)
      (Retry.verdict name policy (.returned (.error refusal)))
      (Retry.attempts name policy operation left (.ofNat k)) s φ l ending s' φ' := by
  have hone := h.asked_le
  rw [Retry.attempts_eq]
  -- A panic leaves the loop as it is; a result is followed by log lines at most.
  cases ending with
  | panicked message =>
    exact ⟨l, _, s', φ', h.walks.bind_panicked, h.stretch, h.asked, by omega, fun hrefused => by
      cases h.refused hrefused⟩
  | returned result =>
    obtain ⟨l', s'', hbeside, hwalks⟩ := exists_walks_stop name operation hbudget
      (fun e he => hstop e (congrArg _ he)) h.stretch.holds
    have hstretch := h.stretch.append (hbeside.stretch fails)
    refine ⟨_, _, s'', φ', h.walks.bind hwalks, hstretch, ?_, ?_, ?_⟩
    · rw [admissionsAsked_append]
      exact Nat.le_add_right_of_le h.asked
    · rw [admissionsAsked_append, hbeside.asked]
      omega
    · rintro ⟨p, hp, hrefused⟩
      rcases List.mem_append.1 hp with hp | hp
      · rw [h.refused ⟨p, hp, hrefused⟩]
      · exact absurd hrefused (hbeside.not_refused p hp)

/-- An attempt that another one follows: the loop goes on in the phase it has led to. -/
theorem Rounds.again {e : Fault ε}
    (h : Rounds i made fails 1 (.returned (.error refusal)) operation s φ l (.returned (.error e))
      s' φ')
    (haccepts : policy.accepts (Seen.failure e) = true)
    (hnext : ∀ s : Scene, φ'.Holds i made s.world → ∃ l ending s' φ'',
      Rounds i made fails (left + 1) (Retry.verdict name policy (.returned (.error refusal)))
        (Retry.attempts name policy operation left (.ofNat (k + 1))) s φ' l ending s' φ'') :
    ∃ l ending s' φ', Rounds i made fails (left + 1 + 1)
      (Retry.verdict name policy (.returned (.error refusal)))
      (Retry.attempts name policy operation (left + 1) (.ofNat k)) s φ l ending s' φ' := by
  have hone := h.asked_le
  obtain ⟨l', s'', hbeside, hagain⟩ := exists_walks_again (β := β) (γ := γ) name policy
    (.ofNat (k + 1)) e h.stretch.holds
  obtain ⟨l'', ending, t, φ'', hrounds⟩ := hnext s'' hbeside.holds
  have hmost := hrounds.asked_le
  have hstretch := h.stretch.append ((hbeside.stretch fails).append hrounds.stretch)
  -- This attempt, the way to the next one, and the rest of the loop.
  refine ⟨l ++ (l' ++ l''), ending, t, φ'', ?_, hstretch, ?_, ?_, ?_⟩
  · rw [Retry.attempts_eq]
    refine h.walks.bind ?_
    simp only [Retry.following, haccepts, if_true, Retry.ofNat_add_one]
    exact hagain hrounds.walks
  · rw [admissionsAsked_append]
    exact Nat.le_add_right_of_le h.asked
  · rw [admissionsAsked_append, admissionsAsked_append, hbeside.asked]
    omega
  · rintro ⟨p, hp, hrefused⟩
    apply hrounds.refused
    rcases List.mem_append.1 hp with hp | hp
    · -- The breaker was open at this attempt already, so the next one is refused as well.
      obtain rfl := h.stretch.leads.opened_of_refused ⟨p, hp, hrefused⟩
      exact hrounds.stretch.leads.exists_refused hrounds.asked
    · rcases List.mem_append.1 hp with hp | hp
      · exact absurd hrefused (hbeside.not_refused p hp)
      · exact ⟨p, hp, hrefused⟩

/-- The loop around the breaker, from any attempt on. -/
theorem exists_rounds_attempts
    (hattempt : ∀ (φ : Phase) (s : Scene), φ.Holds i made s.world → ∃ l ending s' φ',
      Rounds i made fails 1 (.returned (.error refusal)) operation s φ l ending s' φ')
    (hbudget : k + left + 1 = policy.maxAttempts.toNat) (h : φ.Holds i made s.world) :
    ∃ l ending s' φ', Rounds i made fails (left + 1)
      (Retry.verdict name policy (.returned (.error refusal)))
      (Retry.attempts name policy operation left (.ofNat k)) s φ l ending s' φ' := by
  -- Induction on the attempts that are left; the phase goes on from one to the next.
  induction left generalizing k s φ with
  | zero =>
    obtain ⟨l, ending, s', φ', hrounds⟩ := hattempt φ s h
    exact hrounds.last name hbudget fun _ _ _ => rfl
  | succ left ih =>
    obtain ⟨l, ending, s', φ', hrounds⟩ := hattempt φ s h
    by_cases hgo : ∃ e, ending = .returned (.error e) ∧ policy.accepts (Seen.failure e) = true
    · obtain ⟨e, rfl, haccepts⟩ := hgo
      exact hrounds.again name haccepts fun s hs => ih (by omega) hs
    · exact hrounds.last name hbudget fun e he haccepts => absurd ⟨e, he, haccepts⟩ hgo

end Loop

/-! ## A series of calls -/

/-- A call of the resource: under what name and policy it is retried, and what becomes of the
attempts that reach it. -/
structure RetriedCall (ε γ : Type) where
  name : String
  policy : RetryPolicy
  plan : Nat → Trial ε γ

/-- What is known of a call that was made: its steps and the report on it. -/
structure CallAccount (ε γ : Type) where
  call : RetriedCall ε γ
  steps : List (Scene × Effect)
  report : Report (Except (Fault (Fault ε)) γ)

section Series

variable {β γ ε : Type} [Cause ε] [Seen (Fault ε)]

/-- The call, retried around breaker `i`. -/
def RetriedCall.activity (c : RetriedCall ε γ) (i : Nat) :
    Activity γ (Except (Fault (Fault ε)) γ) :=
  Retry.run c.name c.policy (underBreaker i (Trial.operation c.plan))

/-- Calls one after another: the account of each. -/
def CallAccount.series (i : Nat) : World → List (RetriedCall ε γ) → List (CallAccount ε γ)
  | _, [] => []
  | w, c :: calls =>
    ⟨c, (c.activity i).steps ⟨w, .empty⟩, (w.call (c.activity i)).1⟩ ::
      series i (w.call (c.activity i)).2 calls

variable {i : Nat} {made : Breaker} {φ : Phase} {fails : Prop}

/-- What is true of every call: it ends, it has asked the breaker at most once for each attempt that
its policy permits, its report tells how often the operation was invoked, and if it was refused, it
ends with the refusal. -/
structure CallAccount.InOrder (i : Nat) (made : Breaker) (a : CallAccount ε γ) : Prop where
  ended : a.report.ending.isSome
  asked : 1 ≤ admissionsAsked i a.steps
  asked_le : admissionsAsked i a.steps ≤ a.call.policy.maxAttempts.toNat
  starts : a.report.starts.length = invocations a.steps
  refused : (∃ p ∈ a.steps, Refused i made p) → a.report.ending =
    some (Retry.verdict a.call.name a.call.policy (.returned (.error (.circuitOpen made.name))))

/-- One call. -/
private theorem exists_rounds_call (hreset : 0 < made.policy.resetTimeout.nanos)
    (c : RetriedCall ε γ) (hvalid : c.policy.validate = .ok ())
    (hfails : fails → ∀ k, ∃ e, (c.plan k).ending = .returned (.error e)) {s : Scene}
    (h : φ.Holds i made s.world) :
    ∃ l ending s' φ', Rounds i made fails c.policy.maxAttempts.toNat
      (Retry.verdict c.name c.policy (.returned (.error (.circuitOpen made.name))))
      (c.activity i) s φ l ending s' φ' := by
  have hpos := Retry.maxAttempts_pos_of_validate hvalid
  obtain ⟨l, ending, s', φ', hrounds⟩ := exists_rounds_attempts c.name (k := 0)
    (fun φ s hs => exists_rounds_guarded (β := γ) c.plan hreset hfails hs)
    (by omega : 0 + (c.policy.maxAttempts.toNat - 1) + 1 = c.policy.maxAttempts.toNat) h
  rw [Nat.sub_add_cancel hpos] at hrounds
  refine ⟨l, ending, s', φ', ?_⟩
  unfold RetriedCall.activity Retry.run
  rw [hvalid]
  exact hrounds

/-- Calls one after another, in the phase that the calls before them have led to. -/
theorem exists_stretch_series (hreset : 0 < made.policy.resetTimeout.nanos)
    {calls : List (RetriedCall ε γ)} (hvalid : ∀ c ∈ calls, c.policy.validate = .ok ())
    (hfails : fails → ∀ c ∈ calls, ∀ k, ∃ e, (c.plan k).ending = .returned (.error e)) {w : World}
    (h : φ.Holds i made w) :
    (∃ s' φ', Stretch i made fails φ ((CallAccount.series i w calls).flatMap (·.steps)) s' φ') ∧
      ∀ a ∈ CallAccount.series i w calls, a.InOrder i made := by
  -- By induction on the calls, in the phase that the ones before have led to.
  induction calls generalizing w φ with
  | nil => exact ⟨⟨⟨w, .empty⟩, φ, (Beside.nil h).stretch fails⟩, by simp [CallAccount.series]⟩
  | cons c calls ih =>
    obtain ⟨l, ending, s, φ', hrounds⟩ := exists_rounds_call (s := ⟨w, .empty⟩) hreset c
      (hvalid c List.mem_cons_self) (fun hf => hfails hf c List.mem_cons_self) h
    -- The report on the first call and the world that it leaves, read off its walk.
    have hcall : w.call (c.activity i) =
        (s.record.report w.now s.world.now (some ending), s.world) := by
      rw [World.call, hrounds.walks.run_eq]
    obtain ⟨⟨s', φ'', hstretch⟩, hrest⟩ := ih (fun c' hc' => hvalid c' (List.mem_cons_of_mem _ hc'))
      (fun hf c' hc' => hfails hf c' (List.mem_cons_of_mem _ hc')) hrounds.stretch.holds
    rw [CallAccount.series, hcall, hrounds.walks.steps_eq]
    refine ⟨⟨s', φ'', hrounds.stretch.append hstretch⟩, fun a ha => ?_⟩
    rcases List.mem_cons.1 ha with rfl | ha
    · refine ⟨rfl, hrounds.asked, hrounds.asked_le, ?_, fun hrefused => ?_⟩
      · have hstarts := (c.activity i).starts_eq_invocations ⟨w, .empty⟩
        rw [hrounds.walks.run_eq, hrounds.walks.steps_eq] at hstarts
        simpa [Record.report, Record.empty] using hstarts
      · exact congrArg some (hrounds.refused hrefused)
    · exact hrest a ha

/-- A closed breaker that any history has led to, with a cool-down that takes time, under calls that
are retried around it while its clock stands still. Once a step has left it open, every later
attempt, of that call and of all that follow, is refused without invoking the operation, and a call
that was refused ends with the refusal. An operation that always fails is invoked once for each
attempt, until the failures reach the threshold. Every call ends after at most as many attempts as
its policy permits. -/
theorem open_breaker_stops_invocations {name : String} {policy : BreakerPolicy}
    (hmade : Breaker.make name policy = .ok made) (hreset : Duration.zero < policy.resetTimeout)
    {β : Type} (history : List (Breaker.Operation β)) {b : Breaker}
    (hb : ((Breaker.Session.start made).run history).2.breaker = b) (hclosed : b.state = .closed)
    {w : World} (hstored : w.breakers[i]? = some b) {calls : List (RetriedCall ε γ)}
    (hvalid : ∀ c ∈ calls, c.policy.validate = .ok ()) :
    let accounts := CallAccount.series i w calls
    let steps := accounts.flatMap (·.steps)
    (∀ before p later, steps = before ++ p :: later →
      ∀ b', (p.1.perform p.2).2.world.breakers[i]? = some b' → b'.state = .opened →
      ∀ q ∈ later, q.2 ≠ .invoke ∧
        (q.2 = .acquire i → (q.1.world.acquire i).1 = .error (.circuitOpen name))) ∧
    ((∀ c ∈ calls, ∀ k, ∃ e, (c.plan k).ending = .returned (.error e)) →
      invocations steps =
        min (admissionsAsked i steps) (policy.failureThreshold.toNat - b.failures.toNat)) ∧
    ∀ a ∈ accounts, a.report.ending.isSome ∧
      1 ≤ admissionsAsked i a.steps ∧
      admissionsAsked i a.steps ≤ a.call.policy.maxAttempts.toNat ∧
      a.report.starts.length = invocations a.steps ∧
      ((∃ p ∈ a.steps, p.2 = .acquire i ∧
          (p.1.world.acquire i).1 = .error (.circuitOpen name)) →
        a.report.ending = some
          (Retry.verdict a.call.name a.call.policy (.returned (.error (.circuitOpen name))))) := by
  intro accounts steps
  obtain ⟨hpolicy, rfl⟩ := Breaker.make_eq_ok_iff.1 hmade
  have hidentity := Breaker.identity_run (Breaker.Session.start (.fresh name policy)) history
  have hcounted := Breaker.WellCounted.run (s := Breaker.Session.start (.fresh name policy)) hpolicy
    (Breaker.wellCounted_fresh hpolicy) history
  rw [hb] at hidentity hcounted
  -- A closed breaker has room for one failure at least.
  have hholds : (Phase.closed b.failures.toNat).Holds i (.fresh name policy) w := by
    simp only [Breaker.WellCounted, hclosed] at hcounted
    refine ⟨b, hstored, hidentity.1, hidentity.2, hclosed, rfl, ?_⟩
    rw [hidentity.2] at hcounted
    exact UInt32.lt_iff_toNat_lt.1 hcounted.1
  have hwait : 0 < (Breaker.fresh name policy).policy.resetTimeout.nanos := hreset
  refine ⟨fun before p later hsplit b' hb' hstate => ?_, fun hfails => ?_, fun a ha => ?_⟩
  · obtain ⟨⟨s', φ', hstretch⟩, -⟩ := exists_stretch_series hwait hvalid False.elim hholds
    have hleads : Leads i _ _ steps φ' := hstretch.leads
    rw [hsplit] at hleads
    exact hleads.heldOff hb' hstate
  · obtain ⟨⟨s', φ', hstretch⟩, -⟩ := exists_stretch_series hwait hvalid
      (fun _ : True => hfails) hholds
    exact (hstretch.counted trivial).1
  · obtain ⟨-, haccounts⟩ := exists_stretch_series hwait hvalid False.elim hholds
    obtain ⟨hended, hasked, hmost, hstarts, hrefused⟩ := haccounts a ha
    exact ⟨hended, hasked, hmost, hstarts, hrefused⟩

end Series

/-- Two calls of three attempts each that always fail, around a breaker that opens at the second
failure. -/
theorem open_breaker_stops_invocations_twice :
    let policy : BreakerPolicy := ⟨2, .ofSeconds 60, 1⟩
    let w := { World.start true with breakers := [.fresh "db" policy] }
    let call : RetriedCall OperationError Nat :=
      ⟨"api", .standard, fun _ => ⟨.ofMillis 5, .returned (.error ⟨"down"⟩)⟩⟩
    let accounts := CallAccount.series 0 w [call, call]
    let steps := accounts.flatMap (·.steps)
    (∀ c ∈ [call, call], c.policy.validate = .ok ()) ∧
      admissionsAsked 0 steps = 6 ∧ invocations steps = 2 ∧
      accounts.map (·.report.starts) = [[0, 105], []] ∧
      ∀ a ∈ accounts, a.report.ending.isSome := by
  intro policy w call accounts steps
  have hvalid : ∀ c ∈ [call, call], c.policy.validate = .ok () := by
    have hstandard : RetryPolicy.standard.validate = .ok () := by decide +kernel
    simpa [call] using hstandard
  have hasked : admissionsAsked 0 steps = 6 := by decide +kernel
  obtain ⟨-, hcount, haccounts⟩ := open_breaker_stops_invocations
    (rfl : Breaker.make "db" policy = .ok (.fresh "db" policy)) (by decide)
    ([] : List (Breaker.Operation Nat)) rfl rfl (rfl : w.breakers[0]? = some _) hvalid
  refine ⟨hvalid, hasked, ?_, by decide +kernel, fun a ha => (haccounts a ha).1⟩
  rw [hcount (by simp [call])]
  show min (admissionsAsked 0 steps) 2 = 2
  rw [hasked]
  rfl

end Safeguard
