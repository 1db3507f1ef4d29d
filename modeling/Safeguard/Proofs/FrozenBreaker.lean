import Safeguard.Proofs.ActivitySteps
import Safeguard.Proofs.BreakerCooldown
import Safeguard.Proofs.BreakerHistory
import Safeguard.Proofs.WorldLasting

/-!
# A breaker whose clock stands still

As long as its clock stands still, no cool-down of a breaker ends. It goes through `Phase`s: closed
with a count of failures, and then open for good. `Stretch` says what a list of steps does to the
phase: what is held off once the breaker is open, and how the attempts and the failures add up.
Stretches follow one another, so the same is true of a loop and of a series of loops.

## Key results

- `Phase.Holds.refused`, `Phase.Holds.admitted`, `Phase.Holds.succeed`, `Phase.Holds.fail`: one move
- `Leads.heldOff`: every step after the one that leaves the breaker open
- `Leads.opened_of_refused`, `Leads.exists_refused`: a refusal and an open breaker
- `Stretch.append`: stretches follow one another
-/

namespace Safeguard

/-! ## The phases of a breaker that never cools down -/

/-- A breaker whose clock stands still: closed with a count of failures, or open for good. -/
inductive Phase where
  | closed (failures : Nat)
  | opened

namespace Phase

/-- The failures that it takes to open the breaker. -/
def room (p : BreakerPolicy) : Phase → Nat
  | closed failures => p.failureThreshold.toNat - failures
  | opened => 0

/-- The phase after a failure. -/
def failed (p : BreakerPolicy) : Phase → Phase
  | closed failures =>
    if failures + 1 < p.failureThreshold.toNat then closed (failures + 1) else opened
  | opened => opened

/-- Breaker `i`, made as `made`, is in the phase. -/
def Holds (i : Nat) (made : Breaker) : Phase → World → Prop
  | closed failures, w => ∃ b, w.breakers[i]? = some b ∧ b.name = made.name ∧
      b.policy = made.policy ∧ b.state = .closed ∧ b.failures.toNat = failures ∧
      failures < made.policy.failureThreshold.toNat
  | opened, w => ∃ b, w.breakers[i]? = some b ∧ b.name = made.name ∧ b.policy = made.policy ∧
      b.OpenedAt w.clock.now

variable {i : Nat} {made : Breaker} {φ : Phase} {w : World} {failures : Nat}

/-- Nothing but the breaker and its clock matters. -/
theorem Holds.of_same {w' : World} (h : φ.Holds i made w)
    (hbreakers : w'.breakers = w.breakers) (hclock : w'.clock = w.clock) : φ.Holds i made w' := by
  cases φ with
  | closed failures => simpa only [Holds, hbreakers] using h
  | opened => simpa only [Holds, hbreakers, hclock] using h

/-- Time that passes for the calls leaves the clock of the breaker alone. -/
theorem Holds.after (h : φ.Holds i made w) (millis : Nat) : φ.Holds i made (w.after millis) :=
  h.of_same rfl rfl

/-- The breaker that is asked is still the breaker that was made. -/
private theorem breakers_stepBreaker_self {b : Breaker} (hb : w.breakers[i]? = some b)
    (after : Breaker → Breaker) (notices : Breaker → List Notice) :
    (w.stepBreaker i after notices).breakers[i]? = some (after b) := by
  rw [World.breakers_stepBreaker, if_pos rfl, hb]
  rfl

/-- A breaker that refuses is open afterwards. -/
private theorem state_of_refuses {rejection : Rejection} (h : (w.acquire i).1 = .error rejection) :
    ∃ b, (w.acquire i).2.breakers[i]? = some b ∧ b.state = .opened := by
  cases hb : w.breakers[i]? with
  | none => simp [World.acquire, hb] at h
  | some b =>
    -- The answer was a refusal, so the breaker did not admit.
    have hadmits : b.admits w.clock.now = false := by
      cases hadmits : b.admits w.clock.now with
      | false => rfl
      | true => simp [World.acquire, hb, hadmits] at h
    refine ⟨b.acquire w.clock.now, breakers_stepBreaker_self hb _ _, ?_⟩
    rw [Breaker.acquire_of_refuses hadmits]
    cases hstate : b.state with
    | opened => rfl
    | closed | halfOpen => simp [Breaker.admits, hstate] at hadmits

/-- A phase in which the breaker is open. -/
private theorem Holds.eq_opened (h : φ.Holds i made w) {b : Breaker} (hb : w.breakers[i]? = some b)
    (hstate : b.state = .opened) : φ = opened := by
  cases φ with
  | opened => rfl
  | closed failures =>
    obtain ⟨b', hb', -, -, hclosed, -⟩ := h
    obtain rfl : b = b' := Option.some.inj (hb.symm.trans hb')
    cases hclosed.symm.trans hstate

/-- An open breaker refuses, and stays as it is. -/
theorem Holds.refused (hreset : 0 < made.policy.resetTimeout.nanos) (h : opened.Holds i made w) :
    (w.acquire i).1 = .error (.circuitOpen made.name) ∧ opened.Holds i made (w.acquire i).2 := by
  obtain ⟨b, hb, hname, hpolicy, hopened⟩ := h
  -- No time has passed since the failure, and the cool-down takes some.
  have hadmits : b.admits w.clock.now = false := by
    rw [hopened.admits_eq, decide_eq_false_iff_not, Duration.le_def, Duration.nanos_sub, hpolicy]
    omega
  constructor
  · simp [World.acquire, hb, hadmits, hname]
  · refine ⟨b.acquire w.clock.now, breakers_stepBreaker_self hb _ _, ?_, ?_, ?_⟩
    · rw [Breaker.name_acquire, hname]
    · rw [Breaker.policy_acquire, hpolicy]
    · rw [Breaker.acquire_of_refuses hadmits]
      show Breaker.OpenedAt (w.stepBreaker i _ _).clock.now _
      rw [World.clock_stepBreaker]
      exact ⟨hopened.state, hopened.lastFailure⟩

/-- A closed breaker admits, and counts nothing but the call. -/
theorem Holds.admitted (h : (closed failures).Holds i made w) :
    (w.acquire i).1 = .ok () ∧ (closed failures).Holds i made (w.acquire i).2 := by
  obtain ⟨b, hb, hname, hpolicy, hclosed, hrest⟩ := h
  constructor
  · simp [World.acquire, hb, Breaker.admits, hclosed]
  · refine ⟨b.acquire w.clock.now, breakers_stepBreaker_self hb _ _, ?_⟩
    rw [Breaker.acquire_of_ne_opened (by simp [hclosed])]
    exact ⟨hname, hpolicy, hclosed, hrest⟩

/-- A success takes a closed breaker back to no failures. -/
theorem Holds.succeed (h : (closed failures).Holds i made w) :
    (closed 0).Holds i made (w.settle i true) := by
  obtain ⟨b, hb, hname, hpolicy, hclosed, -, hlt⟩ := h
  refine ⟨b.succeed, breakers_stepBreaker_self hb _ _, ?_⟩
  have hsucceed : b.succeed = { b with failures := 0 } := by simp [Breaker.succeed_eq, hclosed]
  rw [hsucceed]
  exact ⟨hname, hpolicy, hclosed, rfl, by omega⟩

/-- A failure is counted, and opens the breaker if it is one too many. -/
theorem Holds.fail (h : (closed failures).Holds i made w) :
    ((closed failures).failed made.policy).Holds i made (w.settle i false) := by
  obtain ⟨b, hb, hname, hpolicy, hclosed, hcount, hlt⟩ := h
  have hroom : b.failures < b.policy.failureThreshold := by
    rw [UInt32.lt_iff_toNat_lt, hcount, hpolicy]
    exact hlt
  have hnext : (Breaker.countFailure b.failures).toNat = failures + 1 := by
    rw [Breaker.countFailure_of_lt hroom, Breaker.toNat_add_one_of_lt hroom, hcount]
  have hreach : b.policy.failureThreshold ≤ Breaker.countFailure b.failures ↔
      ¬ failures + 1 < made.policy.failureThreshold.toNat := by
    rw [UInt32.le_iff_toNat_le, hnext, hpolicy, Nat.not_lt]
  have hstep := breakers_stepBreaker_self hb (·.settle w.clock.now false)
    (·.settleNotices w.clock.now false)
  rw [Breaker.settle_false] at hstep
  -- The count is below the threshold and stays so, or reaches it.
  by_cases hmore : failures + 1 < made.policy.failureThreshold.toNat
  · have hfail : b.fail w.clock.now =
        { b with failures := Breaker.countFailure b.failures } := by
      simp [Breaker.fail_eq, hclosed, hreach, hmore]
    rw [hfail] at hstep
    rw [failed, if_pos hmore]
    exact ⟨_, hstep, hname, hpolicy, hclosed, hnext, hmore⟩
  · have hfail : b.fail w.clock.now = { b with
        state := .opened
        failures := Breaker.countFailure b.failures
        lastFailure := some w.clock.now } := by
      simp [Breaker.fail_eq, hclosed, hreach, hmore]
    rw [hfail] at hstep
    rw [failed, if_neg hmore]
    refine ⟨_, hstep, hname, hpolicy, rfl, ?_⟩
    show some w.clock.now = some (w.settle i false).clock.now
    rw [World.settle, World.clock_stepBreaker]

/-- One failure takes away one of those that are left. -/
theorem room_failed {p : BreakerPolicy} (hlt : failures < p.failureThreshold.toNat) :
    ((closed failures).failed p).room p = (closed failures).room p - 1 := by
  by_cases hmore : failures + 1 < p.failureThreshold.toNat
  · simp only [failed, if_pos hmore, room]
    omega
  · simp only [failed, if_neg hmore, room]
    omega

end Phase

/-! ## Stretches of steps -/

section Stretches

variable (i : Nat) (made : Breaker)

/-- A step that an open breaker lets be taken: no attempt is begun, and whoever asks is refused. -/
def HeldOff (p : Scene × Effect) : Prop :=
  p.2 ≠ .invoke ∧ (p.2 = .acquire i → (p.1.world.acquire i).1 = .error (.circuitOpen made.name))

/-- A step at which breaker `i` refuses a call. -/
def Refused (p : Scene × Effect) : Prop :=
  p.2 = .acquire i ∧ (p.1.world.acquire i).1 = .error (.circuitOpen made.name)

/-- The steps `l` lead the breaker from phase to phase; once it is open it stays so, and every
further step is held off. -/
inductive Leads : Phase → List (Scene × Effect) → Phase → Prop
  | nil (φ : Phase) : Leads φ [] φ
  | step {φ φ' φ'' : Phase} {p : Scene × Effect} {l : List (Scene × Effect)}
      (hafter : φ'.Holds i made (p.1.perform p.2).2.world)
      (hopened : φ = .opened → φ' = .opened ∧ HeldOff i made p) (hl : Leads φ' l φ'') :
      Leads φ (p :: l) φ''

/-- The steps `l` lead to the scene `s'` and the phase `φ'`. If the operation always fails
(`fails`), it is invoked once for each admission asked for, as long as there is room for its
failures. -/
structure Stretch (fails : Prop) (φ : Phase) (l : List (Scene × Effect)) (s' : Scene)
    (φ' : Phase) : Prop where
  holds : φ'.Holds i made s'.world
  leads : Leads i made φ l φ'
  counted : fails → invocations l = min (admissionsAsked i l) (φ.room made.policy) ∧
    φ'.room made.policy = φ.room made.policy - admissionsAsked i l

variable {i made} {fails : Prop} {φ φ' φ'' : Phase} {l l' : List (Scene × Effect)}
  {s' s'' : Scene}

/-- Nothing is held off while the breaker is closed. -/
theorem Leads.stepClosed {failures : Nat} {p : Scene × Effect}
    (hafter : φ'.Holds i made (p.1.perform p.2).2.world) (hl : Leads i made φ' l φ'') :
    Leads i made (.closed failures) (p :: l) φ'' :=
  .step hafter (fun hopened => by cases hopened) hl

/-- Steps that lead to a phase may be followed by steps that lead on from it. -/
theorem Leads.append (h : Leads i made φ l φ') (h' : Leads i made φ' l' φ'') :
    Leads i made φ (l ++ l') φ'' := by
  induction h with
  | nil => exact h'
  | step hafter hopened _ ih => exact .step hafter hopened (ih h')

/-- The open phase is the last one. -/
theorem Leads.opened (h : Leads i made .opened l φ) : φ = .opened ∧ ∀ p ∈ l, HeldOff i made p := by
  -- Induction on the steps, each of which leaves an open breaker open.
  induction l with
  | nil =>
    cases h
    exact ⟨rfl, by simp⟩
  | cons q l ih =>
    cases h with
    | step _ hopened hl =>
      obtain ⟨rfl, hheld⟩ := hopened rfl
      obtain ⟨hlast, hrest⟩ := ih hl
      refine ⟨hlast, fun p hp => ?_⟩
      rcases List.mem_cons.1 hp with rfl | hp
      · exact hheld
      · exact hrest p hp

/-- Every step after the one that leaves the breaker open is held off. -/
theorem Leads.heldOff {before later : List (Scene × Effect)} {p : Scene × Effect}
    (h : Leads i made φ (before ++ p :: later) φ') {b : Breaker}
    (hb : (p.1.perform p.2).2.world.breakers[i]? = some b) (hstate : b.state = .opened) :
    ∀ q ∈ later, HeldOff i made q := by
  induction before generalizing φ with
  | nil =>
    cases h with
    | step hafter _ hl =>
      -- The breaker is open after the step, so this is the phase.
      obtain rfl := hafter.eq_opened hb hstate
      exact hl.opened.2
  | cons q before ih =>
    cases h with
    | step _ _ hl => exact ih hl

/-- A refusal shows that the breaker is open from then on. -/
theorem Leads.opened_of_refused {l : List (Scene × Effect)} {φ' : Phase} (h : Leads i made φ l φ')
    (hrefused : ∃ p ∈ l, Refused i made p) : φ' = .opened := by
  obtain ⟨p, hp, hacquire, hanswer⟩ := hrefused
  induction h with
  | nil => cases hp
  | @step φ ψ φ' q l hafter _ hl ih =>
    -- The refusal is this step, whose phase is open and stays so, or a later one.
    rcases List.mem_cons.1 hp with rfl | hp
    · obtain ⟨s, e⟩ := p
      obtain rfl : e = .acquire i := hacquire
      obtain ⟨b, hb, hstate⟩ := Phase.state_of_refuses hanswer
      obtain rfl := hafter.eq_opened hb hstate
      exact hl.opened.1
    · exact ih hp

/-- When the breaker is open, whoever asks is refused. -/
theorem Leads.exists_refused {l : List (Scene × Effect)} {φ' : Phase}
    (h : Leads i made .opened l φ') (hasked : 1 ≤ admissionsAsked i l) :
    ∃ p ∈ l, Refused i made p := by
  obtain ⟨p, hp, hasks⟩ := List.countP_pos_iff.1 hasked
  have hacquire : p.2 = .acquire i := Effect.asks_iff.1 hasks
  exact ⟨p, hp, hacquire, (h.opened.2 p hp).2 hacquire⟩

/-- Steps of which the only one that asks is admitted. -/
theorem not_refused_of_admitted {s : Scene} (hanswer : (s.world.acquire i).1 = .ok ())
    (hl : admissionsAsked i l = 0) : ¬ ∃ p ∈ (s, .acquire i) :: l, Refused i made p := by
  rintro ⟨p, hp, hacquire, hrefused⟩
  rcases List.mem_cons.1 hp with rfl | hp
  · cases hanswer.symm.trans hrefused
  · exact List.countP_eq_zero.1 hl p hp (Effect.asks_iff.2 hacquire)

/-- Stretches follow one another, and what they count adds up. -/
theorem Stretch.append (h : Stretch i made fails φ l s' φ')
    (h' : Stretch i made fails φ' l' s'' φ'') : Stretch i made fails φ (l ++ l') s'' φ'' := by
  refine ⟨h'.holds, h.leads.append h'.leads, fun hf => ?_⟩
  -- The second stretch has the room that the first one leaves.
  obtain ⟨hinvoked, hroom⟩ := h.counted hf
  obtain ⟨hinvoked', hroom'⟩ := h'.counted hf
  rw [invocations_append, admissionsAsked_append]
  omega

end Stretches

/-! ## Steps beside the breaker -/

section Beside

variable {β : Type} {i : Nat} {made : Breaker} {φ : Phase} {l l' : List (Scene × Effect)}
  {s s' s'' : Scene}

/-- The steps `l` lead to the scene `s'`; they neither begin an attempt nor concern the breaker. -/
structure Beside (i : Nat) (made : Breaker) (φ : Phase) (l : List (Scene × Effect)) (s' : Scene) :
    Prop where
  holds : φ.Holds i made s'.world
  leads : Leads i made φ l φ
  invoked : invocations l = 0
  asked : admissionsAsked i l = 0

namespace Beside

/-- No steps at all concern nothing. -/
theorem nil (h : φ.Holds i made s.world) : Beside i made φ [] s :=
  ⟨h, .nil φ, rfl, rfl⟩

/-- Steps that do not concern the breaker, one after another. -/
theorem append (h : Beside i made φ l s') (h' : Beside i made φ l' s'') :
    Beside i made φ (l ++ l') s'' := by
  refine ⟨h'.holds, h.leads.append h'.leads, ?_, ?_⟩
  · rw [invocations_append, h.invoked, h'.invoked]
  · rw [admissionsAsked_append, h.asked, h'.asked]

/-- A notice does not concern the breaker. -/
theorem tell (h : φ.Holds i made s.world) (notice : Notice) :
    Beside i made φ [(s, .tell notice)] (s.perform (.tell notice)).2 := by
  have hafter : φ.Holds i made (s.perform (.tell notice)).2.world := h.of_same rfl rfl
  exact ⟨hafter, .step hafter (fun hφ => ⟨hφ, by simp, by simp⟩) (.nil φ), rfl, rfl⟩

/-- Steps beside the breaker take no part in the count. -/
theorem stretch (h : Beside i made φ l s') (fails : Prop) : Stretch i made fails φ l s' φ := by
  refine ⟨h.holds, h.leads, fun _ => ?_⟩
  rw [h.invoked, h.asked]
  omega

/-- Nobody is refused by a breaker that is not asked. -/
theorem not_refused (h : Beside i made φ l s') : ∀ p ∈ l, ¬ Refused i made p := by
  intro p hp hrefused
  exact List.countP_eq_zero.1 h.asked p hp (Effect.asks_iff.2 hrefused.1)

end Beside

/-- The steps that let the world know something. -/
theorem exists_walks_telling {α : Type} (notices : List Notice) (h : φ.Holds i made s.world) :
    ∃ l s', Beside i made φ l s' ∧ ∀ {x : Activity β α} {l' ending s''},
      x.Walks s' l' ending s'' → (Activity.telling notices x).Walks s (l ++ l') ending s'' := by
  induction notices generalizing s with
  | nil => exact ⟨[], s, .nil h, id⟩
  | cons notice notices ih =>
    have htell := Beside.tell h notice
    obtain ⟨l, s', hbeside, hwalks⟩ := ih htell.holds
    exact ⟨(s, .tell notice) :: l, s', htell.append hbeside, fun hx => .act (hwalks hx)⟩

/-- Notices are steps beside the breaker. -/
theorem exists_walks_told {α : Type} (notices : List Notice) (a : α)
    (h : φ.Holds i made s.world) :
    ∃ l s', Beside i made φ l s' ∧
      (Activity.telling notices (.pure a) : Activity β α).Walks s l (.returned a) s' := by
  obtain ⟨l, s', hbeside, hwalks⟩ := exists_walks_telling (β := β) notices h
  have hended := hwalks (.ended (.returned a) s')
  rw [List.append_nil] at hended
  exact ⟨l, s', hbeside, hended⟩

end Beside

end Safeguard
