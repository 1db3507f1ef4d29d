import Safeguard.Proofs.AttemptStory
import Safeguard.Proofs.BreakerSignals

/-!
# What the layers of a call tell and leave

A call asks its bulkhead and its breaker before its attempts begin, and settles with both of them
when they are over. Both are the ones under the keys of the call's name, or are made for it
(`breakerFor`, `bulkheadFor`). This file follows the layers of such a call while no other call goes
on: it is turned away, or it comes to the end of its attempts, or it is cut short before that, by a
panic or because it is dropped.

## Key results

- `resolve_equips`: what a call finds
- `alone_broken`: the attempts under a breaker
- `alone_held`: the whole under a bulkhead
-/

namespace Safeguard

open Activity (Alone)

variable {β γ : Type}

/-! ## Looking instances up -/

/-- An effect that looks an instance up. -/
def Effect.Finds : Effect → Prop
  | .findBreaker _ _ | .findBulkhead _ _ => True
  | _ => False

/-- What is looked up is not told, apart from log lines. -/
theorem Effect.Finds.signals {e : Effect} (he : e.Finds) (s : Scene) :
    Notice.signals (s.perform e).2.world.notices = Notice.signals s.world.notices := by
  -- A lookup tells log lines only.
  have hline : ∀ (w : World) line, Notice.signals w.notices = Notice.signals s.world.notices →
      Notice.signals (w.tell [.line line]).notices = Notice.signals s.world.notices := by
    intro w line h
    rw [World.signals_tell, h, show Notice.signals [.line line] = [] from rfl]
    simp
  cases e with
  | findBreaker key policy =>
    exact World.findBreaker_keeps
      (P := fun w => Notice.signals w.notices = Notice.signals s.world.notices) hline rfl
      fun _ => rfl
  | findBulkhead key policy =>
    exact World.findBulkhead_keeps
      (P := fun w => Notice.signals w.notices = Notice.signals s.world.notices) hline rfl
      fun _ => rfl
  | _ => exact he.elim

/-- An activity that has only looked instances up so far has told nothing. -/
private theorem Activity.Reaches.signals_of_meets {x y : Activity β γ} {s s' : Scene} {R : γ → Prop}
    (h : x.Reaches s y s') (hx : x.Meets Effect.Finds R) :
    Notice.signals s'.world.notices = Notice.signals s.world.notices := by
  induction h with
  | refl => rfl
  | act _ ih =>
    cases hx with
    | act he hnext => exact (ih (hnext _)).trans (he.signals _)

/-! ## Moves of breakers and bulkheads -/

namespace Scene.Onward

variable {s s' : Scene} {breakers : List Breaker} {bulkheads : List Bulkhead} {told : List Signal}
  {begun : List Nat}

/-- A breaker moves, and tells so. -/
theorem stepBreaker (h : s.Onward breakers bulkheads told begun s') {i : Nat} {b : Breaker}
    (hb : breakers[i]? = some b) (after : Breaker → Breaker) (notices : Breaker → List Notice) :
    s.Onward (breakers.set i (after b)) bulkheads (told ++ Notice.signals (notices b)) begun
      { s' with world := s'.world.stepBreaker i after notices } := by
  have hstep : s'.world.stepBreaker i after notices =
      { s'.world with breakers := breakers.set i (after b) }.tell (notices b) := by
    simp only [World.stepBreaker, h.breakers, hb]
  have hmoved : s.Onward (breakers.set i (after b)) bulkheads told begun
      { s' with world := { s'.world with breakers := breakers.set i (after b) } } :=
    ⟨rfl, h.bulkheads, h.registry, h.listening, h.le, h.signals, h.starts⟩
  rw [hstep]
  exact hmoved.tell (notices b)

/-- A bulkhead moves, and tells so. -/
theorem stepBulkhead (h : s.Onward breakers bulkheads told begun s') {j : Nat} {c : Bulkhead}
    (hc : bulkheads[j]? = some c) (after : Bulkhead → Bulkhead) (notices : Bulkhead → List Notice) :
    s.Onward breakers (bulkheads.set j (after c)) (told ++ Notice.signals (notices c)) begun
      { s' with world := s'.world.stepBulkhead j after notices } := by
  have hstep : s'.world.stepBulkhead j after notices =
      { s'.world with bulkheads := bulkheads.set j (after c) }.tell (notices c) := by
    simp only [World.stepBulkhead, h.bulkheads, hc]
  have hmoved : s.Onward breakers (bulkheads.set j (after c)) told begun
      { s' with world := { s'.world with bulkheads := bulkheads.set j (after c) } } :=
    ⟨h.breakers, rfl, h.registry, h.listening, h.le, h.signals, h.starts⟩
  rw [hstep]
  exact hmoved.tell (notices c)

end Scene.Onward

namespace Orchestrator

open World (Registers)

variable {name : String} {options : Options} {w w' : World}

/-! ## The instances of a call -/

/-- The breaker that a call asks, if it asks one: the one under its key, or the one made for it. -/
def breakerFor (name : String) (options : Options) (w : World) : Option Breaker :=
  options.breaker.map fun p => (w.breaker? (breakerKey name)).getD (.fresh (breakerKey name) p)

/-- The bulkhead that a call asks, if it asks one. -/
def bulkheadFor (name : String) (options : Options) (w : World) : Option Bulkhead :=
  options.bulkhead.map fun p =>
    (w.bulkhead? (bulkheadKey name)).getD (.fresh (bulkheadKey name) p)

/-- A call is admitted if the breaker that it asks admits it. -/
theorem admitted_eq (name : String) (options : Options) (w : World) :
    admitted name options w = (breakerFor name options w).all (·.admits w.clock.now) := by
  unfold admitted breakerFor
  cases options.breaker with
  | none => rfl
  | some p => cases w.breaker? (breakerKey name) <;> rfl

/-- A call is let through if the bulkhead that it asks has a permit left. -/
theorem letThrough_eq (hvalid : options.Valid) (name : String) (w : World) :
    letThrough name options w = (bulkheadFor name options w).all (·.admits) := by
  unfold letThrough bulkheadFor
  cases hasked : options.bulkhead with
  | none => rfl
  | some p =>
    cases w.bulkhead? (bulkheadKey name) with
    | some c => rfl
    | none =>
      -- A bulkhead that is made has permits.
      have hpos := Bulkhead.maxConcurrent_pos (hvalid.bulkhead p hasked)
      have hpermits : p.maxConcurrent ≠ 0 := fun hzero => by simp [hzero] at hpos
      simp [Bulkhead.admits, Bulkhead.fresh, hpermits]

/-- The number that a call found for the instance that it asks, with what is registered under its
key and the instances there are. -/
inductive Located {α : Type} (called : α → String) (key : String) (number : Option Nat)
    (l : List α) : Option α → Option Nat → Prop
  | absent : Located called key number l none none
  | found {a : α} {i : Nat} (hnumber : number = some i) (ha : l[i]? = some a)
      (hname : called a = key) : Located called key number l (some a) (some i)

/-- What is under a key, or is made if nothing is there, is what a call finds. -/
private theorem located {π α : Type} {called : α → String} {key : String} {fresh : π → α}
    {accepts : π → Bool} {d d' : Directory} {l l' : List α} {asked : Option π} {found : Option Nat}
    (hstored : ∀ i, d.find? key = some i → ∃ a, l[i]? = some a ∧ called a = key)
    (hfresh : ∀ p, called (fresh p) = key) (haccepts : ∀ p ∈ asked, accepts p = true)
    {made : Option π} (hmade : made = asked.filter fun p => accepts p && (d.find? key).isNone)
    (hl : l' = l ++ (made.map fresh).toList)
    (hfind : d'.find? key = made.elim (d.find? key) fun _ => some l.length)
    (hfound : Stands asked (d'.find? key) found) :
    Located called key (d'.find? key) l'
      (asked.map fun p => ((d.find? key).bind (l[·]?)).getD (fresh p)) found := by
  -- A call that has not asked for the layer finds nothing.
  cases hfound with
  | absent hasked =>
    subst hasked
    exact .absent
  | @found p i hasked hi =>
    subst hasked
    cases hold : d.find? key with
    | some j =>
      have hnone : made = none := by simp [hmade, hold]
      subst hnone
      obtain ⟨a, ha, hname⟩ := hstored j hold
      obtain rfl : j = i := by simpa [hold, hi] using hfind.symm
      have ha' : l'[j]? = some a := by simpa [hl] using ha
      simpa [ha] using Located.found hi ha' hname
    | none =>
      have hsome : made = some p := by simp [hmade, hold, haccepts p rfl]
      subst hsome
      obtain rfl : l.length = i := by simpa [hi] using hfind.symm
      have ha : l'[l.length]? = some (fresh p) := by
        rw [hl]
        exact List.getElem?_concat_length
      simpa using Located.found hi ha (hfresh p)

/-- A call that was made in the world `w` has got these layers, and all that it did is to look them
up. -/
structure Equipped (name : String) (options : Options) (w : World) (layers : Layers) (s : Scene) :
    Prop where
  valid : options.Valid
  breaker : Located Breaker.name (breakerKey name)
    (s.world.registry.breakers.find? (breakerKey name)) s.world.breakers
    (breakerFor name options w) layers.breaker
  bulkhead : Located Bulkhead.name (bulkheadKey name)
    (s.world.registry.bulkheads.find? (bulkheadKey name)) s.world.bulkheads
    (bulkheadFor name options w) layers.bulkhead
  deadline : layers.deadline = options.timeout.map (⟨timeoutKey name, ·⟩)
  retry : layers.retry = options.retry.map fun p => (retryKey name, p.unwrapping)
  registers : Registers name (w.madeBulkhead name options.bulkhead)
    (w.madeBreaker name options.breaker) w s.world
  signals : Notice.signals s.world.notices = Notice.signals w.notices
  record : s.record = .empty

/-- What a call gets that asks for its layers: the fault of a policy, or its layers. -/
theorem resolve_equips (name : String) (options : Options) (hnamed : w.Named) :
    ∃ answer s, (resolve name options : Activity β _).Reaches ⟨w, .empty⟩ (.pure answer) s ∧
      s.record = .empty ∧ s.world.now = w.now ∧ s.world.listening = w.listening ∧
      Notice.signals s.world.notices = Notice.signals w.notices ∧
      ((∃ e, answer = .error e ∧ ¬ options.Valid) ∨
        ∃ layers, answer = .ok layers ∧ Equipped name options w layers s) := by
  obtain ⟨answer, s, hreaches, hrecord, hregisters, hresolved⟩ :=
    resolve_resolves (β := β) name options ⟨w, .empty⟩
  have hsignals : Notice.signals s.world.notices = Notice.signals w.notices :=
    hreaches.signals_of_meets (meets_resolve (fun _ _ => trivial) (fun _ _ => trivial) name options)
  refine ⟨answer, s, hreaches, hrecord, hregisters.now, hregisters.listening, hsignals, ?_⟩
  cases hresolved with
  | @refused e hfault =>
    refine .inl ⟨e, rfl, fun hvalid => ?_⟩
    rw [Options.fault?_eq_none_iff.2 hvalid] at hfault
    cases hfault
  | @found layers hvalid hbulkhead hbreaker hdeadline hretry =>
    -- The policy of the bulkhead is in order, so the breaker is made if it is missing.
    have hmade : breakerMade name options w = w.madeBreaker name options.breaker := by
      simp [breakerMade, faultOf_eq_none_iff.2 hvalid.bulkhead]
    rw [hmade] at hregisters
    have isOk {π : Type} {validate : π → Except PolicyError Unit} {asked : Option π}
        (h : ∀ p ∈ asked, validate p = .ok ()) : ∀ p ∈ asked, (validate p).isOk = true :=
      fun p hp => by simp [h p hp, Except.isOk, Except.toBool]
    refine .inr ⟨layers, rfl, ⟨hvalid, ?_, ?_, hdeadline, hretry, hregisters, hsignals, hrecord⟩⟩
    · exact located (hnamed.breaker _) (fun _ => rfl) (isOk hvalid.breaker) rfl
        hregisters.breakers hregisters.find_breaker hbreaker
    · exact located (hnamed.bulkhead _) (fun _ => rfl) (isOk hvalid.bulkhead) rfl
        hregisters.bulkheads hregisters.find_bulkhead hbulkhead

/-! ## The attempts under a breaker -/

/-- The instances after the one that was found has become another one. -/
def replaced {α : Type} (l : List α) : Option Nat → Option α → List α
  | some i, some a => l.set i a
  | _, _ => l

/-- What stands under the key of an instance that has become another one. -/
theorem Located.find_replaced {α : Type} {called : α → String} {key : String}
    {number : Option Nat} {l : List α} {a : Option α} {found : Option Nat}
    (h : Located called key number l a found) (f : α → α) :
    ∀ a' ∈ a.map f, number.bind ((replaced l found (a.map f))[·]?) = some a' := by
  intro a' ha'
  cases h with
  | absent => cases ha'
  | @found a i hnumber ha _ =>
    obtain rfl : f a = a' := Option.some.inj ha'
    have hlt := (List.getElem?_eq_some_iff.1 ha).1
    rw [hnumber]
    exact List.getElem?_set_self hlt

/-- What the breaker of a call tells that it lets in: that it probes, if it was open. -/
def probeTold (name : String) (b : Option Breaker) : List Signal :=
  if b.any (·.state = .opened) then [.stateChange (breakerKey name) .halfOpen] else []

/-- What the breaker of a call tells of its outcome: that it has opened or closed, if it has. -/
def outcomeTold (name : String) : (before after : Option Breaker) → List Signal
  | some b, some b' =>
    if b'.state = b.state ∨ b'.state = .halfOpen then []
    else [.stateChange (breakerKey name) b'.state]
  | _, _ => []

variable {b : Breaker} {now : Duration}

/-- A breaker that lets a call in tells that it probes, if it was open. -/
private theorem signals_admitted (hname : b.name = breakerKey name)
    (hadmits : b.admits now = true) :
    Notice.signals (b.acquireNotices now) = probeTold name (some b) := by
  rw [Breaker.acquireNotices_eq, Breaker.signals_crossing, hname, probeTold]
  cases hs : b.state with
  | closed | halfOpen => simp [Breaker.acquire_of_ne_opened, hs]
  | opened => simp [Breaker.acquire_of_opened hs hadmits, hs]

/-- A call that is refused leaves the state of the breaker alone. -/
theorem signals_refused (hrefuses : b.admits now = false) :
    Notice.signals (b.acquireNotices now) = [] := by
  rw [Breaker.acquireNotices_eq, Breaker.signals_crossing, Breaker.acquire_of_refuses hrefuses]
  simp

/-- An outcome never makes a breaker probe. -/
private theorem state_settle_of_halfOpen {ok : Bool} (h : (b.settle now ok).state = .halfOpen) :
    b.state = .halfOpen := by
  cases hs : b.state with
  | halfOpen => rfl
  | opened => cases ok <;> simp [Breaker.settle, Breaker.succeed_eq, Breaker.fail_eq, hs] at h
  | closed =>
    cases ok with
    | true => simp [Breaker.settle, Breaker.succeed_eq, hs] at h
    | false =>
      rw [Breaker.settle_false, Breaker.state_fail_of_closed hs] at h
      -- A failure leaves a closed breaker closed or opens it.
      split at h <;> cases h

/-- A breaker tells of an outcome whether it has opened or closed. -/
private theorem signals_settled (hname : b.name = breakerKey name) (ok : Bool) :
    Notice.signals (b.settleNotices now ok) =
      outcomeTold name (some b) (some (b.settle now ok)) := by
  rw [Breaker.settleNotices_eq, Breaker.signals_crossing, hname, outcomeTold]
  -- Only a change of state is told.
  by_cases hs : b.state = (b.settle now ok).state
  · simp [hs]
  · have hne : (b.settle now ok).state ≠ .halfOpen := fun h =>
      hs ((state_settle_of_halfOpen h).trans h.symm)
    simp [hs, hne, Ne.symm hs]

variable (name options) (found : Option Nat) (b : Option Breaker) (bulkheads : List Bulkhead)

/-- A call that its breaker let in was cut short; it left these bulkheads. -/
def Interrupted (s s' : Scene) : Prop :=
  ∃ ran begun, b.all (·.admits s.world.clock.now) = true ∧ begun.length = ran.length ∧
    0 < begun.length ∧ begun.length ≤ attemptLimit options ∧
    s.Onward (replaced s.world.breakers found (b.map (·.acquire s.world.clock.now))) bulkheads
      (probeTold name b ++ attemptsTold name options.timeout 0 ran) begun s'

/-- A call that its breaker let in came to the end of its attempts. -/
def Completed (ok : Bool) (s s' : Scene) : Prop :=
  let entered := b.map (·.acquire s.world.clock.now)
  ∃ lengths begun t, b.all (·.admits s.world.clock.now) = true ∧
    Paced (delayAfter options) 0 s.world.now lengths begun s'.world.now ∧
    begun.length ≤ attemptLimit options ∧
    s.Onward (replaced s.world.breakers found (entered.map (·.settle t ok))) bulkheads
      (probeTold name b ++ attemptsTold name options.timeout 0 (lengths.map some) ++
        outcomeTold name entered (entered.map (·.settle t ok))) begun s'

/-- How a call has ended that asked its breaker. -/
inductive Broken (s : Scene) : Ending (Except (Fault OperationError) γ) → Scene → Prop
  | refused {fault : Fault OperationError} {breakers : List Breaker} {s' : Scene}
      (hrefuses : b.all (·.admits s.world.clock.now) = false)
      (h : s.Onward breakers bulkheads [] [] s') : Broken s (.returned (.error fault)) s'
  | returned {result : Except (Fault OperationError) γ} {s' : Scene}
      (h : Completed name options found b bulkheads result.isOk s s') :
      Broken s (.returned result) s'
  | panicked {message : String} {s' : Scene}
      (h : Interrupted name options found b bulkheads s s') : Broken s (.panicked message) s'

variable {name options found b bulkheads} {s t s' : Scene}

/-- A breaker that has let a call in, and its attempts, which were cut short. -/
private theorem CutOff.interrupted (hadmits : b.all (·.admits s.world.clock.now) = true)
    (h : s.Onward (replaced s.world.breakers found (b.map (·.acquire s.world.clock.now))) bulkheads
      (probeTold name b) [] t)
    (h' : CutOff name options.timeout 0 (attemptLimit options) t s') :
    Interrupted name options found b bulkheads s s' := by
  obtain ⟨ran, rest, begun, hlength, hlimit, htold⟩ := h'
  refine ⟨ran :: rest, begun, hadmits, hlength, by omega, by omega, ?_⟩
  exact h.along htold

/-- Without a breaker nothing is recorded. -/
private theorem Concluded.unguarded (h : s.Onward s.world.breakers bulkheads [] [] t)
    (hnow : t.world.now = s.world.now)
    (h' : Concluded name options.timeout (delayAfter options) 0 (attemptLimit options) t s')
    (ok : Bool) : Completed name options none none bulkheads ok s s' := by
  obtain ⟨ms, rest, begun, hpaced, hlimit, htold⟩ := h'
  refine ⟨ms :: rest, begun, .zero, rfl, hnow ▸ hpaced, by omega, ?_⟩
  have hboth := h.along htold
  rw [← List.append_nil ([] ++ _)] at hboth
  exact hboth

/-- A call that is over may still write log lines. -/
theorem Completed.log {ok : Bool} (h : Completed name options found b bulkheads ok s s')
    {lines : List Notice} (hlines : Notice.signals lines = []) :
    Completed name options found b bulkheads ok s { s' with world := s'.world.tell lines } := by
  obtain ⟨lengths, begun, at', hadmits, hpaced, hlimit, htold⟩ := h
  exact ⟨lengths, begun, at', hadmits, hpaced, hlimit, htold.log hlines⟩

variable {i : Nat} {a : Breaker}

/-- The outcome of the attempts is recorded with the breaker. -/
theorem Concluded.settled (hb : s.world.breakers[i]? = some a) (hname : a.name = breakerKey name)
    (hadmits : a.admits s.world.clock.now = true)
    (h : s.Onward (s.world.breakers.set i (a.acquire s.world.clock.now)) bulkheads
      (probeTold name (some a)) [] t)
    (hnow : t.world.now = s.world.now)
    (h' : Concluded name options.timeout (delayAfter options) 0 (attemptLimit options) t s')
    (ok : Bool) : Completed name options (some i) (some a) bulkheads ok s
      { s' with world := s'.world.settle i ok } := by
  obtain ⟨ms, rest, begun, hpaced, hlimit, htold⟩ := h'
  have hsettledAt : (s'.world.settle i ok).now = s'.world.now :=
    World.now_stepBreaker ..
  refine ⟨ms :: rest, begun, s'.world.clock.now, hadmits, ?_, by omega, ?_⟩
  · rw [← hnow]
    exact hsettledAt.symm ▸ hpaced
  have hlt := (List.getElem?_eq_some_iff.1 hb).1
  -- The attempts have left the breaker as the admission did.
  have hsettled := (h.along htold).stepBreaker (List.getElem?_set_self hlt)
    (·.settle s'.world.clock.now ok) (·.settleNotices s'.world.clock.now ok)
  rw [List.set_set, signals_settled ((Breaker.name_acquire a _).trans hname)] at hsettled
  exact hsettled

/-- The breaker answers a call that asks it. -/
theorem onward_acquire (hb : s.world.breakers[i]? = some a)
    (h : s.Onward s.world.breakers bulkheads [] [] t) (hclock : t.world.clock = s.world.clock) :
    (t.perform (.acquire i)).1 =
        (if a.admits s.world.clock.now then .ok () else .error (.circuitOpen a.name)) ∧
      s.Onward (s.world.breakers.set i (a.acquire s.world.clock.now)) bulkheads
        (Notice.signals (a.acquireNotices s.world.clock.now)) []
        (t.perform (.acquire i)).2 := by
  refine ⟨?_, ?_⟩
  · show (t.world.acquire i).1 = _
    simp only [World.acquire, h.breakers, hb, hclock]
    rfl
  · have hmoved := h.stepBreaker hb (·.acquire t.world.clock.now)
      (·.acquireNotices t.world.clock.now)
    rw [hclock] at hmoved
    exact hclock ▸ hmoved

/-- The attempts under the breaker of a call, from a scene `t` to which no time has passed. -/
theorem alone_broken (hvalid : options.Valid) (script : Script β)
    (hlocated : Located Breaker.name (breakerKey name)
      (s.world.registry.breakers.find? (breakerKey name)) s.world.breakers b found)
    (h : s.Onward s.world.breakers bulkheads [] [] t) (hnow : t.world.now = s.world.now)
    (hclock : t.world.clock = s.world.clock) :
    (match found with
      | some i => flattened (underBreaker i (inner name options script.operation))
      | none => inner name options script.operation).Alone
      (fun l s' => l = [] ∧ Interrupted name options found b bulkheads s s')
      (Broken name options found b bulkheads s) t := by
  have hinner := alone_inner name hvalid script
  -- Without a breaker, the attempts are all there is.
  cases hlocated with
  | absent =>
    refine (hinner t).mono (fun l s' hwaits => ⟨hwaits.1, hwaits.2.interrupted rfl h⟩)
      fun ending s' hended => ?_
    cases ending with
    | returned result => exact .returned (Concluded.unguarded h hnow hended _)
    | panicked message => exact .panicked (CutOff.interrupted rfl h hended)
  | @found a i _ hb hname =>
    obtain ⟨hanswer, hentered⟩ := onward_acquire hb h hclock
    refine Alone.map ?_
    cases hadmits : a.admits s.world.clock.now with
    | false =>
      -- No attempt begins, and nothing is told but a log line.
      rw [hadmits] at hanswer
      rw [signals_refused hadmits] at hentered
      exact .answered hanswer (.telling (.ended (.refused hadmits (hentered.log rfl))))
    | true =>
      rw [hadmits] at hanswer
      rw [signals_admitted hname hadmits] at hentered
      have hnow' : (t.perform (.acquire i)).2.world.now = s.world.now :=
        (Scene.now_perform t _).trans hnow
      refine .answered hanswer (((hinner _).mono
        (fun l s' hwaits => ⟨hwaits.1, hwaits.2.interrupted hadmits hentered⟩)
        fun _ _ hended => hended).bind (fun result s' hended => ?_)
        fun message s' hended => .panicked (CutOff.interrupted hadmits hentered hended))
      -- The outcome is recorded, now that the attempts are over. A panic never comes here.
      have hcompleted := Concluded.settled hb hname hadmits hentered hnow' hended
      cases result with
      | ok v => exact .act (.ended (.returned (hcompleted true)))
      | error e => exact .act (.telling (.ended (.returned ((hcompleted false).log rfl))))

/-! ## The whole under a bulkhead -/

variable {j : Nat} {c : Bulkhead} {breakers : List Breaker} {told : List Signal} {begun : List Nat}

/-- A permit is given back without a word. -/
theorem onward_leave (h : s.Onward breakers bulkheads told begun s') (hc : bulkheads[j]? = some c) :
    s.Onward breakers (bulkheads.set j c.release) told begun
      { s' with world := s'.world.leave j } := by
  have hgiven := h.stepBulkhead hc (·.release) fun _ => []
  rw [show Notice.signals [] = [] from rfl, List.append_nil] at hgiven
  exact hgiven

/-- A permit is given back after that. -/
theorem Interrupted.leave (h : Interrupted name options found b bulkheads s s')
    (hc : bulkheads[j]? = some c) : Interrupted name options found b (bulkheads.set j c.release) s
      { s' with world := s'.world.leave j } := by
  obtain ⟨ran, begun, hadmits, hlength, hpos, hlimit, htold⟩ := h
  exact ⟨ran, begun, hadmits, hlength, hpos, hlimit, onward_leave htold hc⟩

/-- Time passes after that. -/
theorem Interrupted.later (h : Interrupted name options found b bulkheads s s') {now : Nat}
    (hle : s'.world.now ≤ now) (clock : Clock) :
    Interrupted name options found b bulkheads s (s'.later now clock) := by
  obtain ⟨ran, begun, hadmits, hlength, hpos, hlimit, htold⟩ := h
  exact ⟨ran, begun, hadmits, hlength, hpos, hlimit, htold.later hle clock⟩

/-- A permit is given back when the call has ended, in whatever way. -/
theorem Broken.leave {ending : Ending (Except (Fault OperationError) γ)}
    (h : Broken name options found b bulkheads s ending s') (hc : bulkheads[j]? = some c) :
    Broken name options found b (bulkheads.set j c.release) s ending
      { s' with world := s'.world.leave j } := by
  cases h with
  | refused hrefuses h => exact .refused hrefuses (onward_leave h hc)
  | panicked h => exact .panicked (h.leave hc)
  | returned h =>
    obtain ⟨lengths, begun, at', hadmits, hpaced, hlimit, htold⟩ := h
    have hnow : (s'.world.leave j).now = s'.world.now := World.now_stepBulkhead ..
    exact .returned ⟨lengths, begun, at', hadmits, hnow.symm ▸ hpaced, hlimit,
      onward_leave htold hc⟩

variable (name options) in
/-- The bulkhead and the breaker of a call let it in, and it was cut short. -/
def CutIn (layers : Layers) (b : Option Breaker) (c : Option Bulkhead) (s s' : Scene) : Prop :=
  c.all (·.admits) = true ∧ Interrupted name options layers.breaker b
    (replaced s.world.bulkheads layers.bulkhead (c.map (·.acquire.release))) s s'

variable (name options) in
/-- How a call has ended that asked its bulkhead. -/
inductive Held (layers : Layers) (b : Option Breaker) (c : Option Bulkhead) (s : Scene) :
    Ending (Except (Fault OperationError) γ) → Scene → Prop
  | turnedAway {fault : Fault OperationError} {breakers : List Breaker} {bulkheads : List Bulkhead}
      {s' : Scene} (hfull : c.all (·.admits) = false)
      (h : s.Onward breakers bulkheads [.bulkheadRejection (bulkheadKey name)] [] s') :
      Held layers b c s (.returned (.error fault)) s'
  | through {ending : Ending (Except (Fault OperationError) γ)} {s' : Scene}
      (hthrough : c.all (·.admits) = true)
      (h : Broken name options layers.breaker b
        (replaced s.world.bulkheads layers.bulkhead (c.map (·.acquire.release))) s ending s') :
      Held layers b c s ending s'

/-- The bulkhead answers a call that asks it. -/
theorem onward_enter (hc : s.world.bulkheads[j]? = some c) :
    (s.perform (.enter j)).1 =
        (if c.admits then .ok () else .error (.bulkheadFull c.name c.policy.maxConcurrent)) ∧
      s.Onward s.world.breakers (s.world.bulkheads.set j c.acquire)
        (Notice.signals c.acquireNotices) [] (s.perform (.enter j)).2 := by
  refine ⟨?_, (Scene.Along.refl s).stepBulkhead hc (·.acquire) (·.acquireNotices)⟩
  show (s.world.enter j).1 = _
  simp only [World.enter, hc]
  rfl

/-- The layers of a call that has found them. -/
theorem alone_held {layers : Layers} (hequipped : Equipped name options w layers s)
    (script : Script β) :
    (layered layers script.operation).Alone
      (fun l s' => ∀ now clock, s'.world.now ≤ now → CutIn name options layers
        (breakerFor name options w) (bulkheadFor name options w) s ((s'.later now clock).leaves l))
      (Held name options layers (breakerFor name options w) (bulkheadFor name options w) s) s := by
  obtain ⟨hvalid, hbreaker, hbulkhead, hdeadline, hretry, -, -, -⟩ := hequipped
  obtain ⟨bulkhead, breaker, deadline, retry⟩ := layers
  obtain rfl : deadline = _ := hdeadline
  obtain rfl : retry = _ := hretry
  dsimp only at hbreaker hbulkhead
  generalize bulkheadFor name options w = c at hbulkhead ⊢
  cases hbulkhead with
  | absent =>
    refine (alone_broken hvalid script hbreaker (Scene.Along.refl s) rfl rfl).mono ?_
      fun _ _ hended => .through rfl hended
    rintro l s' ⟨rfl, h⟩ now clock hle
    exact ⟨rfl, h.later hle clock⟩
  | @found c j _ hc hname =>
    obtain ⟨hanswer, hentered⟩ := onward_enter hc
    refine Alone.map ?_
    -- A call that is turned away tells the refusal; one that is let in tells nothing and holds a
    -- permit.
    cases hadmits : c.admits with
    | false =>
      rw [hadmits] at hanswer
      have htold : Notice.signals c.acquireNotices = [.bulkheadRejection (bulkheadKey name)] := by
        simp [Bulkhead.acquireNotices, hadmits, Notice.signals, Notice.log, hname]
      rw [htold] at hentered
      exact .answered hanswer (.ended (.turnedAway hadmits hentered))
    | true =>
      rw [hadmits] at hanswer
      have htold : Notice.signals c.acquireNotices = [] := by
        simp [Bulkhead.acquireNotices, hadmits, Notice.signals]
      rw [htold] at hentered
      have hlt := (List.getElem?_eq_some_iff.1 hc).1
      have hpermit : (s.world.bulkheads.set j c.acquire)[j]? = some c.acquire :=
        List.getElem?_set_self hlt
      -- Taking the permit and giving it back is one change of the bulkhead.
      have hback : (s.world.bulkheads.set j c.acquire).set j c.acquire.release =
          s.world.bulkheads.set j c.acquire.release := List.set_set ..
      have hbroken := alone_broken hvalid script hbreaker hentered
        (World.now_stepBulkhead ..) (World.SameBreakers.enter s.world j).clock
      refine .answered hanswer (.holding (.map (hbroken.mono ?_ fun ending s' hended => ?_)))
      · -- A call that is dropped gives its permit back as well.
        rintro l s' ⟨rfl, h⟩ now clock hle
        have hdropped := (h.later hle clock).leave hpermit
        rw [hback] at hdropped
        exact ⟨hadmits, hdropped⟩
      · have hended' := hended.leave hpermit
        rw [hback] at hended'
        refine .through hadmits ?_
        cases ending with
        | panicked message => exact hended'
        | returned result => cases result <;> exact hended'

end Orchestrator

end Safeguard
