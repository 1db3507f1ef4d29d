import Safeguard.Proofs.BreakerInvariant
import Safeguard.Proofs.LoneActivity
import Safeguard.Proofs.OuterLayers

/-!
# What the attempts of a call tell

`Scene.Onward` says how far a call has taken its world, in terms of what others can see: the
signals it told, the attempts it began, and the breakers and bulkheads it left. The attempts of a
call that runs alone tell nothing but the number of each further attempt and the length of each
attempt that overran an advisory deadline (`attemptsTold`). They follow each other with the delays
that the retry policy computes (`Paced`). A call that comes to the end of its attempts has told all
of this (`Concluded`), and one that panics or waits has told it as far as it has come (`CutOff`).

## Key results

- `alone_attempt`: one attempt under its deadline
- `alone_attempts`: the retry loop
- `alone_inner`: the attempts of a call
-/

namespace Safeguard

open Activity (Alone)

variable {β γ : Type}

/-! ## How far a call has come -/

namespace Scene

/-- From one scene to another a call told the signals `told` and began attempts at the times
`begun`, and it left the breakers and the bulkheads given. -/
structure Onward (s : Scene) (breakers : List Breaker) (bulkheads : List Bulkhead)
    (told : List Signal) (begun : List Nat) (s' : Scene) : Prop where
  breakers : s'.world.breakers = breakers
  bulkheads : s'.world.bulkheads = bulkheads
  registry : s'.world.registry = s.world.registry
  listening : s'.world.listening = s.world.listening
  le : s.world.now ≤ s'.world.now
  signals : Notice.signals s'.world.notices =
    Notice.signals s.world.notices ++ if s.world.listening then told else []
  starts : s'.record.starts.toList = s.record.starts.toList ++ begun

/-- From one scene to another a call has left the breakers and the bulkheads alone. -/
abbrev Along (s : Scene) (told : List Signal) (begun : List Nat) (s' : Scene) : Prop :=
  s.Onward s.world.breakers s.world.bulkheads told begun s'

variable {s s' s'' : Scene} {breakers breakers' : List Breaker}
  {bulkheads bulkheads' : List Bulkhead} {told more : List Signal} {begun begun' : List Nat}

/-- A call that has done nothing. -/
theorem Along.refl (s : Scene) : s.Along [] [] s :=
  ⟨rfl, rfl, rfl, rfl, Nat.le_refl _, by simp, by simp⟩

namespace Onward

/-- One stretch after another. -/
theorem trans (h : s.Onward breakers bulkheads told begun s')
    (h' : s'.Onward breakers' bulkheads' more begun' s'') :
    s.Onward breakers' bulkheads' (told ++ more) (begun ++ begun') s'' where
  breakers := h'.breakers
  bulkheads := h'.bulkheads
  registry := h'.registry.trans h.registry
  listening := h'.listening.trans h.listening
  le := Nat.le_trans h.le h'.le
  signals := by
    -- Whether the world listens is the same throughout, so the signals of both stretches are kept
    -- or none.
    rw [h'.signals, h.signals, h.listening]
    cases s.world.listening <;> simp
  starts := by rw [h'.starts, h.starts, List.append_assoc]

/-- The call goes on and leaves the breakers and the bulkheads alone. -/
theorem along (h : s.Onward breakers bulkheads told begun s') (h' : s'.Along more begun' s'') :
    s.Onward breakers bulkheads (told ++ more) (begun ++ begun') s'' := by
  have hboth := h.trans h'
  rwa [h.breakers, h.bulkheads] at hboth

/-- Time passes, and the clock of the breakers may be moved. -/
theorem later (h : s.Onward breakers bulkheads told begun s') {now : Nat}
    (hle : s'.world.now ≤ now) (clock : Clock) :
    s.Onward breakers bulkheads told begun (s'.later now clock) :=
  ⟨h.breakers, h.bulkheads, h.registry, h.listening, Nat.le_trans h.le hle, h.signals, h.starts⟩

/-- The call tells something. -/
theorem tell (h : s.Onward breakers bulkheads told begun s') (notices : List Notice) :
    s.Onward breakers bulkheads (told ++ Notice.signals notices) begun
      { s' with world := s'.world.tell notices } where
  breakers := h.breakers
  bulkheads := h.bulkheads
  registry := h.registry
  listening := h.listening
  le := h.le
  signals := by
    rw [World.signals_tell, h.signals, h.listening]
    cases s.world.listening <;> simp
  starts := h.starts

/-- Log lines are not signals. -/
theorem log (h : s.Onward breakers bulkheads told begun s') {lines : List Notice}
    (hlines : Notice.signals lines = []) :
    s.Onward breakers bulkheads told begun { s' with world := s'.world.tell lines } := by
  simpa [hlines] using h.tell lines

end Onward

/-- An attempt begins. -/
theorem Along.invoke (s : Scene) : s.Along [] [s.world.now] (s.perform .invoke).2 :=
  ⟨rfl, rfl, rfl, rfl, Nat.le_refl _, by simp [perform], by simp [perform]⟩

/-- An attempt ends. -/
theorem Onward.conclude (h : s.Onward breakers bulkheads told begun s') :
    s.Onward breakers bulkheads told begun (s'.perform .conclude).2 :=
  ⟨h.breakers, h.bulkheads, h.registry, h.listening, h.le, h.signals, h.starts⟩

end Scene

/-! ## The story of the attempts -/

namespace Orchestrator

/-- What an attempt tells that took so many milliseconds, or that came to no end: its length, if it
overran an advisory deadline. -/
def overran (name : String) (timeout : Option TimeoutPolicy) : Option Nat → List Signal
  | none => []
  | some ms =>
    match timeout with
    | none => []
    | some t =>
      if t.mode = .advisory ∧ t.limit.nanos < ms * 10 ^ 6 then
        [.operationDuration (timeoutKey name) (millisWord ms)]
      else []

/-- An attempt tells one length or nothing. -/
theorem overran_eq (name : String) (timeout : Option TimeoutPolicy) (ran : Option Nat) :
    overran name timeout ran = [] ∨
      ∃ ms, overran name timeout ran = [.operationDuration (timeoutKey name) (millisWord ms)] := by
  unfold overran
  split
  · exact .inl rfl
  · next ms =>
    split
    · exact .inl rfl
    · split
      · exact .inr ⟨ms, rfl⟩
      · exact .inl rfl

/-- What attempts of these lengths tell that follow `made` earlier ones: its number before each of
them but the very first, and then what it tells of its length. -/
def attemptsTold (name : String) (timeout : Option TimeoutPolicy) :
    (made : Nat) → List (Option Nat) → List Signal
  | _, [] => []
  | made, ran :: rest =>
    (if made = 0 then [] else [.retryAttempt (retryKey name) (.ofNat (made + 1))]) ++
      overran name timeout ran ++ attemptsTold name timeout (made + 1) rest

/-- Attempts of these lengths follow `made` earlier ones from time `t` on, with a delay after each
but the last: the times at which they begin, and the time at which the last one ends. -/
inductive Paced (delay : Nat → Nat) : (made t : Nat) → (lengths starts : List Nat) → Nat → Prop
  | last (made t ms : Nat) : Paced delay made t [ms] [t] (t + ms)
  | again {made t ms : Nat} {lengths starts : List Nat} {finish : Nat}
      (h : Paced delay (made + 1) (t + ms + delay (made + 1)) lengths starts finish) :
      Paced delay made t (ms :: lengths) (t :: starts) finish

/-- Every attempt begins once. -/
theorem Paced.length_eq {delay : Nat → Nat} {made t finish : Nat} {lengths starts : List Nat}
    (h : Paced delay made t lengths starts finish) : starts.length = lengths.length := by
  induction h with
  | last => rfl
  | again _ ih => exact congrArg (· + 1) ih

/-- Times that are counted from another moment. -/
theorem Paced.since {delay : Nat → Nat} {made t finish : Nat} {lengths starts : List Nat}
    (h : Paced delay made t lengths starts finish) {began : Nat} (hle : began ≤ t) :
    Paced delay made (t - began) lengths (starts.map (· - began)) (finish - began) := by
  induction h with
  | last made t ms =>
    -- No time of the attempts is before the moment from which they are counted.
    rw [show t + ms - began = t - began + ms by omega]
    exact .last made (t - began) ms
  | @again made t ms lengths starts finish _ ih =>
    have hrest := ih (by omega)
    rw [show t + ms + delay (made + 1) - began = t - began + ms + delay (made + 1) by omega]
      at hrest
    exact .again hrest

/-- The milliseconds that a call waits after the attempt of a given number, if it makes another
one. -/
def delayAfter (options : Options) (attempt : Nat) : Nat :=
  match options.retry with
  | none => 0
  | some p => (p.delayFor (.ofNat attempt)).sleepMillis

variable (name : String) (timeout : Option TimeoutPolicy)

/-! ## One attempt -/

/-- An attempt is under way that began in the scene `s`. -/
def Attempting (s : Scene) (l : List Nat) (s' : Scene) : Prop :=
  l = [] ∧ s.Along [] [s.world.now] s'

/-- An attempt came to its end in so many milliseconds that began in the scene `s`. -/
structure Ran (s : Scene) (ms : Nat) (s' : Scene) : Prop where
  now : s'.world.now = s.world.now + ms
  along : s.Along (overran name timeout (some ms)) [s.world.now] s'

/-- An attempt has ended that began in the scene `s`. -/
def Attempted (s : Scene) : Ending γ → Scene → Prop
  | .returned _, s' => ∃ ms, Ran name timeout s ms s'
  | .panicked _, s' => s.Along [] [s.world.now] s'

/-- An operation that a script plays begins one attempt and tells nothing. -/
private theorem alone_operation (script : Script β) (s : Scene) :
    script.operation.Alone (Attempting s) (fun _ s' => s.Along [] [s.world.now] s') s := by
  have hbegun := Scene.Along.invoke s
  have concluded (outcome : Outcome β) {s' : Scene} (h : s.Along [] [s.world.now] s') :
      (Script.conclude outcome).Alone (Attempting s) (fun _ s' => s.Along [] [s.world.now] s') s' :=
    .act (.ended h.conclude)
  refine .act ?_
  cases script.attempt (s.perform .invoke).1 with
  | timed delay outcome =>
    -- The delay lets time pass and the clock move, and neither is told.
    refine (Alone.sleep (E := fun _ s' => s.Along [] [s.world.now] s') true _ ⟨rfl, hbegun⟩
      fun clock => hbegun.later (Nat.le_add_right _ _) clock).bind (fun _ s' h => concluded _ h) ?_
    exact fun _ _ h => h
  | gated =>
    refine .wait ⟨rfl, hbegun⟩ fun wake clock => ?_
    cases wake with
    | elapsed ms h => nomatch h
    | opened _ after outcome => exact concluded outcome (hbegun.later (Nat.le_add_right _ _) clock)

/-- What a deadline tells of an attempt that it lets run on. -/
private theorem signals_overrun {t : TimeoutPolicy} (hmode : t.mode = .advisory) (ms : Nat) :
    Notice.signals ((⟨timeoutKey name, t⟩ : Deadline).overrun ms) =
      overran name (some t) (some ms) := by
  unfold Deadline.overrun overran
  simp only [hmode, true_and]
  split <;> rfl

/-- One attempt of a call, under its deadline if there is one. -/
theorem alone_attempt (script : Script β) (s : Scene) :
    (attempt (timeout.map (⟨timeoutKey name, ·⟩)) script.operation).Alone (Attempting s)
      (Attempted name timeout s) s := by
  have hoperation := alone_operation script s
  cases timeout with
  | none =>
    refine Alone.map (hoperation.mono (fun _ _ h => h) fun ending s' h => ?_)
    cases ending with
    | returned => exact ⟨_, (Nat.add_sub_cancel' h.le).symm, h⟩
    | panicked => exact h
  | some t =>
    show ((⟨timeoutKey name, t⟩ : Deadline).guard script.operation).Alone _ _ s
    unfold Deadline.guard
    split
    · next hmode =>
      -- An attempt that is dropped when its time is up tells no more than one that ends.
      have hmode : t.mode = .cancel := hmode
      have quiet {s' : Scene} (h : s.Along [] [s.world.now] s')
          (result : Except (Fault OperationError) β) :
          Attempted name (some t) s (.returned result) s' := by
        refine ⟨_, (Nat.add_sub_cancel' h.le).symm, ?_⟩
        simpa [overran, hmode] using h
      refine (hoperation.deadline (E := fun _ s' => s.Along [] [s.world.now] s')
        (fun _ _ h => h) ?_ _).bind (fun answer s' h => ?_) fun _ _ h => h
      · rintro l s' now clock ⟨rfl, h⟩ hle
        exact h.later hle clock
      · cases answer with
        | none => exact .telling (.ended (quiet (h.log rfl) _))
        | some result => exact .ended (quiet h _)
    · next hmode =>
      -- An advisory attempt ends by itself, and its length is told after it.
      refine .act (hoperation.bind (fun result s' h => .act (.telling (.ended ?_))) fun _ _ h => h)
      have htold := h.tell ((⟨timeoutKey name, t⟩ : Deadline).overrun (s'.world.now - s.world.now))
      rw [signals_overrun name hmode, List.nil_append] at htold
      exact ⟨_, (World.now_tell ..).trans (Nat.add_sub_cancel' h.le).symm, htold⟩

/-! ## Retries -/

/-- The attempts of a call were cut short that followed `made` earlier ones from the scene `s` on,
`limit` being the most that a call makes. -/
def CutOff (made limit : Nat) (s s' : Scene) : Prop :=
  ∃ ran rest begun, begun.length = rest.length + 1 ∧ made + begun.length ≤ limit ∧
    s.Along (overran name timeout ran ++ attemptsTold name timeout (made + 1) rest) begun s'

/-- The attempts of a call came to an end that followed `made` earlier ones from the scene `s`
on. -/
def Concluded (delay : Nat → Nat) (made limit : Nat) (s s' : Scene) : Prop :=
  ∃ ms rest begun, Paced delay made s.world.now (ms :: rest) begun s'.world.now ∧
    made + begun.length ≤ limit ∧
    s.Along (overran name timeout (some ms) ++
      attemptsTold name timeout (made + 1) (rest.map some)) begun s'

/-- The attempts are under way that began in the scene `s`. -/
def Retrying (made limit : Nat) (s : Scene) (l : List Nat) (s' : Scene) : Prop :=
  l = [] ∧ CutOff name timeout made limit s s'

/-- How the attempts have ended. -/
def Settled (delay : Nat → Nat) (made limit : Nat) (s : Scene) : Ending γ → Scene → Prop
  | .returned _, s' => Concluded name timeout delay made limit s s'
  | .panicked _, s' => CutOff name timeout made limit s s'

variable {name timeout} {delay : Nat → Nat} {made limit : Nat} {s s' s'' : Scene}

/-- An attempt that is under way, or that panicked. -/
theorem CutOff.first (hlt : made < limit) (h : s.Along [] [s.world.now] s') :
    CutOff name timeout made limit s s' :=
  ⟨none, [], [s.world.now], rfl, hlt, by simpa [overran, attemptsTold] using h⟩

/-- A delay after an attempt. -/
theorem CutOff.between {ms : Nat} (hlt : made < limit) (h : Ran name timeout s ms s')
    (h' : s'.Along [] [] s'') : CutOff name timeout made limit s s'' :=
  ⟨some ms, [], [s.world.now], rfl, hlt, by simpa [attemptsTold] using h.along.along h'⟩

/-- The last attempt. -/
theorem Concluded.last {ms : Nat} (hlt : made < limit) (h : Ran name timeout s ms s') :
    Concluded name timeout delay made limit s s' :=
  ⟨ms, [], [s.world.now], h.now ▸ .last made s.world.now ms, hlt,
    by simpa [attemptsTold] using h.along⟩

/-- What an attempt tells, and then the number of the next one. -/
private theorem attemptsTold_again (ran : Option Nat) (rest : List (Option Nat)) :
    [.retryAttempt (retryKey name) (.ofNat (made + 1 + 1))] ++
      (overran name timeout ran ++ attemptsTold name timeout (made + 1 + 1) rest) =
    attemptsTold name timeout (made + 1) (ran :: rest) := by
  simp [attemptsTold]

variable {ms : Nat}

/-- An attempt in front of others that were cut short. -/
theorem CutOff.again (h : s.Along (overran name timeout (some ms) ++
      [.retryAttempt (retryKey name) (.ofNat (made + 1 + 1))]) [s.world.now] s')
    (h' : CutOff name timeout (made + 1) limit s' s'') : CutOff name timeout made limit s s'' := by
  obtain ⟨ran, rest, begun, hlength, hlimit, hrest⟩ := h'
  refine ⟨some ms, ran :: rest, s.world.now :: begun, by simp [hlength], ?_, ?_⟩
  · rw [List.length_cons]
    omega
  -- The number of the next attempt belongs to what that attempt tells.
  · have hboth := h.along hrest
    rwa [List.append_assoc, attemptsTold_again] at hboth

/-- An attempt in front of others that came to an end. -/
theorem Concluded.again (h : s.Along (overran name timeout (some ms) ++
      [.retryAttempt (retryKey name) (.ofNat (made + 1 + 1))]) [s.world.now] s')
    (htime : s'.world.now = s.world.now + ms + delay (made + 1))
    (h' : Concluded name timeout delay (made + 1) limit s' s'') :
    Concluded name timeout delay made limit s s'' := by
  obtain ⟨ms', rest, begun, hpaced, hlimit, hrest⟩ := h'
  refine ⟨ms, ms' :: rest, s.world.now :: begun, .again (htime ▸ hpaced), ?_, ?_⟩
  · rw [List.length_cons]
    omega
  · have hboth := h.along hrest
    rwa [List.append_assoc, attemptsTold_again] at hboth

/-- The retries end after an attempt. -/
private theorem alone_stopped {I : List Nat → Scene → Prop} (hlt : made < limit)
    (h : Ran name timeout s ms s') (lines : List Notice) (hlines : Notice.signals lines = [])
    (result : Except (Fault (Fault OperationError)) γ) :
    (Activity.telling lines (.pure result) : Activity β _).Alone I
      (Settled name timeout delay made limit s) s' :=
  .telling (.ended (Concluded.last hlt ⟨h.now, h.along.log hlines⟩))

variable {policy : RetryPolicy} {operation : Activity β (Except (Fault OperationError) γ)}

/-- What follows an attempt, given what follows one that is made again. -/
private theorem alone_following {I : List Nat → Scene → Prop} (hlt : made < limit)
    (h : Ran name timeout s ms s') {left : Nat} {word : UInt32}
    (hagain : ∀ left', left = left' + 1 → ∀ e, (Retry.again (retryKey name) policy (word + 1) e
      (Retry.attempts (retryKey name) policy operation left' (word + 1))).Alone I
        (Settled name timeout delay made limit s) s') (result : Except (Fault OperationError) γ) :
    (Retry.following (retryKey name) policy operation left word result).Alone I
      (Settled name timeout delay made limit s) s' := by
  unfold Retry.following
  -- After a value, and after an error unless another attempt follows, only log lines are left.
  cases result with
  | ok v =>
    dsimp only
    unfold Retry.success
    split
    · exact .ended (.last hlt h)
    · exact alone_stopped hlt h _ rfl _
  | error e =>
    dsimp only
    split
    · cases left with
      | zero => exact alone_stopped hlt h _ rfl _
      | succ left => exact hagain left rfl e
    · exact alone_stopped hlt h _ rfl _

variable (name timeout policy) in
/-- A delay after an attempt, the number of the next one, and what goes on from there. -/
private theorem alone_again {made : UInt32}
    {next : Activity β (Except (Fault (Fault OperationError)) γ)}
    (hdelay : ∀ n, delay n = (policy.delayFor (.ofNat n)).sleepMillis) (hlt : made.toNat < limit)
    (h : Ran name timeout s ms s')
    (hnext : ∀ s'', s.Along (overran name timeout (some ms) ++
        [.retryAttempt (retryKey name) (.ofNat (made.toNat + 1 + 1))]) [s.world.now] s'' →
      s''.world.now = s.world.now + ms + delay (made.toNat + 1) →
      next.Alone (Retrying name timeout made.toNat limit s)
        (Settled name timeout delay made.toNat limit s) s'') (e : Fault OperationError) :
    (Retry.again (retryKey name) policy (made + 1) e next).Alone
      (Retrying name timeout made.toNat limit s) (Settled name timeout delay made.toNat limit s)
      s' := by
  have hword : made + 1 = .ofNat (made.toNat + 1) := by
    rw [← Retry.ofNat_add_one, UInt32.ofNat_toNat]
  unfold Retry.again
  rw [hword, Retry.ofNat_add_one]
  have hlogged : s'.Along [] [] { s' with world := s'.world.tell [.log .debug
      "Operation failed, retrying" [("attempt", .number (UInt32.ofNat (made.toNat + 1)).toNat),
        ("delay", .text (policy.delayFor (.ofNat (made.toNat + 1))).text),
        ("error", .text (Cause.message e))]] } := (Scene.Along.refl s').log rfl
  -- A sleep does not panic, which its ending says here.
  refine .telling ((Alone.sleep (E := fun ending s'' => ending = .returned () ∧
      s'.Along [] [] s'' ∧ s''.world.now = s'.world.now + delay (made.toNat + 1)) false _
    ⟨rfl, .between hlt h hlogged⟩
    fun clock => ⟨rfl, hlogged.later (Nat.le_add_right _ _) clock, by rw [hdelay]; rfl⟩).bind
      (fun _ s'' hwaited => .telling (hnext _ ?_ ?_)) ?_)
  · obtain ⟨-, hquiet, -⟩ := hwaited
    have htold := (h.along.along hquiet).tell
      [.signal (.retryAttempt (retryKey name) (.ofNat (made.toNat + 1 + 1)))]
    rw [List.append_nil, List.append_nil] at htold
    exact htold
  · rw [← h.now]
    exact hwaited.2.2
  · rintro message s'' ⟨hreturned, -⟩
    cases hreturned

/-- One attempt, and what follows it. -/
private theorem alone_step (hop : ∀ s, operation.Alone (Attempting s) (Attempted name timeout s) s)
    {left : Nat} {word : UInt32} (hlt : made < limit)
    (hagain : ∀ left', left = left' + 1 → ∀ s' ms e, Ran name timeout s ms s' →
      (Retry.again (retryKey name) policy (word + 1) e
        (Retry.attempts (retryKey name) policy operation left' (word + 1))).Alone
          (Retrying name timeout made limit s) (Settled name timeout delay made limit s) s') :
    (Retry.attempts (retryKey name) policy operation left word).Alone
      (Retrying name timeout made limit s) (Settled name timeout delay made limit s) s := by
  rw [Retry.attempts_eq]
  exact ((hop s).mono (fun l s' h => ⟨h.1, .first hlt h.2⟩) fun _ _ h => h).bind
    (fun result s' ⟨ms, h⟩ =>
      alone_following hlt h (fun left' hleft' e => hagain left' hleft' s' ms e h) result)
    fun _ _ h => .first hlt h

/-- The retry loop, with `left` attempts that may follow the next one. -/
theorem alone_attempts (hop : ∀ s, operation.Alone (Attempting s) (Attempted name timeout s) s)
    (hdelay : ∀ n, delay n = (policy.delayFor (.ofNat n)).sleepMillis) (left : Nat) (made : UInt32)
    (hleft : made.toNat + left + 1 = policy.maxAttempts.toNat) (s : Scene) :
    (Retry.attempts (retryKey name) policy operation left made).Alone
      (Retrying name timeout made.toNat policy.maxAttempts.toNat s)
      (Settled name timeout delay made.toNat policy.maxAttempts.toNat s) s := by
  induction left generalizing made s with
  | zero => exact alone_step hop (by omega) fun _ hleft' => by omega
  | succ left ih =>
    have hlt : made.toNat < policy.maxAttempts.toNat := by omega
    have hnext : (made + 1).toNat = made.toNat + 1 :=
      Breaker.toNat_add_one_of_lt (UInt32.lt_iff_toNat_lt.2 hlt)
    refine alone_step hop hlt fun left' hleft' s' ms e h => ?_
    obtain rfl : left = left' := Nat.succ.inj hleft'
    refine alone_again name timeout policy hdelay hlt h (fun s'' hagain htime => ?_) e
    -- The attempts from the next one on are a story of their own, which continues this one.
    have hrest := ih (made + 1) (by omega) s''
    rw [hnext] at hrest
    refine hrest.mono (fun l t hwaits => ⟨hwaits.1, hwaits.2.again hagain⟩)
      fun ending t hended => ?_
    cases ending with
    | returned => exact Concluded.again hagain htime hended
    | panicked => exact CutOff.again hagain hended

/-! ## The attempts of a call -/

variable {options : Options}

/-- The most attempts that a call makes. -/
def attemptLimit (options : Options) : Nat :=
  match options.retry with
  | none => 1
  | some p => p.maxAttempts.toNat

/-- The number of attempts is a word of 32 bits. -/
theorem attemptLimit_lt (options : Options) : attemptLimit options < 2 ^ 32 := by
  unfold attemptLimit
  split
  · decide
  · exact UInt32.toNat_lt _

/-- What goes on inside the breaker of a call. -/
theorem alone_inner (name : String) (hvalid : options.Valid) (script : Script β) (s : Scene) :
    (inner name options script.operation).Alone
      (Retrying name options.timeout 0 (attemptLimit options) s)
      (Settled name options.timeout (delayAfter options) 0 (attemptLimit options) s) s := by
  have hop := alone_attempt name options.timeout script
  unfold inner layered
  cases hretry : options.retry with
  | none =>
    have hlimit : attemptLimit options = 1 := by simp [attemptLimit, hretry]
    rw [hlimit]
    refine (hop s).mono (fun l s' h => ⟨h.1, .first Nat.one_pos h.2⟩) fun ending s' h => ?_
    cases ending with
    | returned => exact h.elim fun ms h => Concluded.last Nat.one_pos h
    | panicked => exact CutOff.first Nat.one_pos h
  | some p =>
    have hpos := Retry.maxAttempts_pos_of_validate (hvalid.retry p hretry)
    have hlimit : attemptLimit options = p.unwrapping.maxAttempts.toNat := by
      simp [attemptLimit, hretry, RetryPolicy.unwrapping]
    have hdelay (n : Nat) :
        delayAfter options n = (p.unwrapping.delayFor (.ofNat n)).sleepMillis := by
      simp only [delayAfter, hretry]
      rfl
    have hunwrapped : p.unwrapping.validate = .ok () := hvalid.retry p hretry
    show (flattened (Retry.run _ _ _)).Alone _ _ _
    unfold Retry.run
    rw [hunwrapped, hlimit]
    have hlooped := alone_attempts hop hdelay (p.unwrapping.maxAttempts.toNat - 1) 0
      (by show 0 + (p.maxAttempts.toNat - 1) + 1 = p.maxAttempts.toNat; omega) s
    -- The fault of the retries stands one level below.
    refine Alone.map (hlooped.mono (fun _ _ h => h) fun ending s' h => ?_)
    cases ending <;> exact h

end Orchestrator

end Safeguard
