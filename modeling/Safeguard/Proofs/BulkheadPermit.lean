import Mathlib.Data.List.Basic
import Safeguard.Proofs.ActivityContract
import Safeguard.Proofs.ActivityReach

/-!
# Permits of a bulkhead

`World.Lends i b n` says that bulkhead `i` is `b`, except that `n` of its permits are out. A call
that was let in has one of them: `Activity.Holds i R` says of what is left of such a call that it
gives the permit back exactly once before it ends, that it gives it back as well if it is dropped at
a wait, and that it leaves bulkhead `i` alone otherwise. Like `Activity.Meets` it speaks of the
tree, so it holds of a call that waits while others come and go.

## Key results

- `Lends.enter`: a permit is taken if and only if fewer than all are out
- `Holds.of_meets`, `Holds.bind`: the layers around a permit
- `Holds.advance`: how far a call that holds a permit gets in the background
-/

namespace Safeguard

namespace Bulkhead

/-- A new bulkhead is one with a policy that is in order and with every permit left. -/
theorem make_eq_ok_iff {name : String} {policy : BulkheadPolicy} {b : Bulkhead} :
    make name policy = .ok b ↔ policy.validate = .ok () ∧ b = fresh name policy := by
  unfold make
  cases policy.validate with
  | error e => simp [bind, Except.bind]
  | ok _ => simp [bind, Except.bind, pure, Except.pure, eq_comm]

/-- A policy that is in order allows one call at least. -/
theorem maxConcurrent_pos {policy : BulkheadPolicy} (h : policy.validate = .ok ()) :
    0 < policy.maxConcurrent.toNat := by
  unfold BulkheadPolicy.validate at h
  split at h
  · cases h
  · next hne =>
    have hzero : policy.maxConcurrent.toNat ≠ 0 := fun h => hne (UInt64.toNat_inj.1 h)
    omega

end Bulkhead

namespace World

variable {w : World} {i j n : Nat} {b : Bulkhead}

/-- Bulkhead `i` is `b` with `n` permits out. -/
def Lends (i : Nat) (b : Bulkhead) (n : Nat) (w : World) : Prop :=
  ∃ free : UInt64, w.bulkheads[i]? = some { b with available := free } ∧
    free.toNat + n = b.policy.maxConcurrent.toNat

/-! ### Moves of the bulkheads -/

/-- A move of one bulkhead changes that bulkhead alone. -/
theorem bulkheads_stepBulkhead (after : Bulkhead → Bulkhead) (notices : Bulkhead → List Notice) :
    (w.stepBulkhead j after notices).bulkheads[i]? =
      if j = i then (w.bulkheads[i]?).map after else w.bulkheads[i]? := by
  have hmodify : (w.stepBulkhead j after notices).bulkheads = w.bulkheads.modify j after := by
    rw [List.modify_eq_set_getElem?, stepBulkhead]
    cases w.bulkheads[j]? <;> rfl
  rw [hmodify, List.getElem?_modify]
  by_cases hji : j = i <;> simp [hji]

/-- It takes no time. -/
theorem now_stepBulkhead (after : Bulkhead → Bulkhead) (notices : Bulkhead → List Notice) :
    (w.stepBulkhead j after notices).now = w.now := by
  unfold stepBulkhead
  split <;> rfl

theorem now_enter : (w.enter i).2.now = w.now := now_stepBulkhead _ _

/-- The bulkheads do not notice the breakers. -/
theorem bulkheads_stepBreaker (after : Breaker → Breaker) (notices : Breaker → List Notice) :
    (w.stepBreaker j after notices).bulkheads = w.bulkheads := by
  unfold stepBreaker
  split <;> rfl

/-- A lookup of a breaker keeps what log lines keep and the registration of a new breaker keeps. -/
theorem findBreaker_keeps {P : World → Prop} (htell : ∀ w line, P w → P (w.tell [.line line]))
    (h : P w) {key : String} {policy : BreakerPolicy}
    (hmade : w.registry.breakers.find? key = none → P { w with
      breakers := w.breakers ++ [.fresh key policy]
      registry := { w.registry with
        breakers := w.registry.breakers.insert key w.breakers.length } }) :
    P (w.findBreaker key policy).2 := by
  -- The policy comes first: if it is not in order nothing is looked up.
  cases hvalid : policy.validate with
  | error e => simpa only [findBreaker, hvalid] using h
  | ok _ =>
    have hmake : Breaker.make key policy = .ok (.fresh key policy) := by
      simp only [Breaker.make, hvalid]
      rfl
    cases hfind : w.registry.breakers.find? key with
    | some i =>
      simp only [findBreaker, hvalid, breakerAt, hfind]
      split
      · exact htell _ _ h
      · exact h
    | none =>
      simp only [findBreaker, hvalid, breakerAt, hfind, hmake]
      split
      · exact htell _ _ (htell _ _ (hmade hfind))
      · exact htell _ _ (hmade hfind)

/-- A lookup of a bulkhead keeps what log lines keep and the registration of a new bulkhead
keeps. -/
theorem findBulkhead_keeps {P : World → Prop} (htell : ∀ w line, P w → P (w.tell [.line line]))
    (h : P w) {key : String} {policy : BulkheadPolicy}
    (hmade : w.registry.bulkheads.find? key = none → P { w with
      bulkheads := w.bulkheads ++ [.fresh key policy]
      registry := { w.registry with
        bulkheads := w.registry.bulkheads.insert key w.bulkheads.length } }) :
    P (w.findBulkhead key policy).2 := by
  cases hvalid : policy.validate with
  | error e => simpa only [findBulkhead, hvalid] using h
  | ok _ =>
    have hmake : Bulkhead.make key policy = .ok (.fresh key policy) :=
      Bulkhead.make_eq_ok_iff.2 ⟨hvalid, rfl⟩
    -- A registered bulkhead is compared with the policy, a missing one is made. Both may log.
    cases hfind : w.registry.bulkheads.find? key with
    | some i =>
      simp only [findBulkhead, hvalid, bulkheadAt, hfind]
      split
      · exact htell _ _ h
      · exact h
    | none =>
      simp only [findBulkhead, hvalid, bulkheadAt, hfind, hmake]
      split
      · exact htell _ _ (htell _ _ (hmade hfind))
      · exact htell _ _ (hmade hfind)

/-- A lookup of a breaker does not concern the bulkheads. -/
private theorem bulkheads_findBreaker (key : String) (policy : BreakerPolicy) :
    (w.findBreaker key policy).2.bulkheads = w.bulkheads :=
  findBreaker_keeps (P := (·.bulkheads = w.bulkheads)) (fun _ _ => id) rfl fun _ => rfl

/-- A bulkhead that is made comes after the others. -/
private theorem bulkheads_findBulkhead (w : World) (key : String) (policy : BulkheadPolicy) :
    w.bulkheads <+: (w.findBulkhead key policy).2.bulkheads :=
  findBulkhead_keeps (P := (w.bulkheads <+: ·.bulkheads)) (fun _ _ => id) List.prefix_rfl fun _ =>
    List.prefix_append _ _

/-! ### Taking permits and giving them back -/

/-- No more permits are out than there are. -/
theorem Lends.le (h : w.Lends i b n) : n ≤ b.policy.maxConcurrent.toNat := by
  obtain ⟨free, -, hsum⟩ := h
  omega

/-- Whatever leaves a bulkhead alone leaves its permits where they are. -/
theorem Lends.of_bulkheads_eq {w' : World} (h : w.Lends i b n)
    (heq : w'.bulkheads[i]? = w.bulkheads[i]?) : w'.Lends i b n := by
  obtain ⟨free, hb, hsum⟩ := h
  exact ⟨free, heq.trans hb, hsum⟩

/-- A bulkhead that was just made has every permit left. -/
theorem lends_fresh {name : String} {policy : BulkheadPolicy}
    (h : w.bulkheads[i]? = some (.fresh name policy)) : w.Lends i (.fresh name policy) 0 :=
  ⟨policy.maxConcurrent, h, rfl⟩

/-- A permit that is given back is no longer out. -/
theorem Lends.leave (h : w.Lends i b (n + 1)) : (w.leave i).Lends i b n := by
  obtain ⟨free, hb, hsum⟩ := h
  have hmax := b.policy.maxConcurrent.toNat_lt
  refine ⟨free + 1, ?_, ?_⟩
  · rw [World.leave, bulkheads_stepBulkhead, if_pos rfl, hb]
    rfl
  · -- One permit is out at least, so the count of those that are left does not wrap.
    rw [UInt64.toNat_add, show (1 : UInt64).toNat = 1 from rfl, Nat.mod_eq_of_lt (by omega)]
    omega

/-- A permit of another bulkhead makes no difference. -/
private theorem Lends.leave_of_ne (h : w.Lends i b n) (hj : j ≠ i) : (w.leave j).Lends i b n := by
  apply h.of_bulkheads_eq
  rw [World.leave, bulkheads_stepBulkhead, if_neg hj]

/-- Permits that are given back one after another. -/
theorem Lends.leaves {l : List Nat} (h : w.Lends i b (n + l.count i)) :
    (l.foldl World.leave w).Lends i b n := by
  induction l generalizing w with
  | nil => exact h
  | cons j l ih =>
    -- Each permit of this bulkhead is one less that is out.
    by_cases hj : j = i
    · subst hj
      rw [List.count_cons_self, ← Nat.add_assoc] at h
      exact ih h.leave
    · rw [List.count_cons_of_ne hj] at h
      exact ih (h.leave_of_ne hj)

/-- A permit is taken if fewer than all are out. If all are out, the refusal is counted and told. -/
theorem Lends.enter (h : w.Lends i b n) :
    n < b.policy.maxConcurrent.toNat ∧ (w.enter i).1 = .ok () ∧
        (w.enter i).2.Lends i { b with totalAdmitted := b.totalAdmitted + 1 } (n + 1) ∧
        (w.enter i).2.journal = w.journal ∨
      n = b.policy.maxConcurrent.toNat ∧
        (w.enter i).1 = .error (.bulkheadFull b.name b.policy.maxConcurrent) ∧
        (w.enter i).2.Lends i { b with totalRefused := b.totalRefused + 1 } n ∧
        Notice.signals (w.enter i).2.notices = Notice.signals w.notices ++
          if w.listening then [.bulkheadRejection b.name] else [] := by
  obtain ⟨free, hb, hsum⟩ := h
  have hafter : (w.enter i).2.bulkheads[i]? =
      some ({ b with available := free } : Bulkhead).acquire := by
    rw [World.enter, bulkheads_stepBulkhead, if_pos rfl, hb]
    rfl
  by_cases hfree : free = 0
  · -- No permit is left.
    subst hfree
    rw [show (0 : UInt64).toNat = 0 from rfl] at hsum
    refine .inr ⟨by omega, ?_, ⟨0, ?_, hsum⟩, ?_⟩
    · simp [World.enter, hb, Bulkhead.admits]
    · rw [hafter]
      rfl
    · -- The journal has a log line and a signal more.
      simp only [World.enter, World.stepBulkhead, hb]
      rw [World.signals_tell]
      rfl
  -- Some permit is left, so that the count does not go below zero.
  · have hpos : free.toNat ≠ 0 := fun hzero => hfree (UInt64.toNat_inj.1 hzero)
    have hadmits : ({ b with available := free } : Bulkhead).admits = true := by
      simpa [Bulkhead.admits] using hfree
    refine .inl ⟨by omega, ?_, ⟨free - 1, ?_, ?_⟩, ?_⟩
    · simp [World.enter, hb, hadmits]
    · rw [hafter, Bulkhead.acquire, if_pos hadmits]
    · rw [UInt64.toNat_sub_of_le _ _ (UInt64.le_iff_toNat_le.2 (by
        rw [show (1 : UInt64).toNat = 1 from rfl]; omega))]
      rw [show (1 : UInt64).toNat = 1 from rfl]
      show free.toNat - 1 + (n + 1) = b.policy.maxConcurrent.toNat
      omega
    · simp [World.enter, World.stepBulkhead, hb, Bulkhead.acquireNotices, hadmits, World.tell]

end World

/-! ## Effects aside from a bulkhead -/

namespace Effect

/-- An effect that neither takes a permit of bulkhead `i` nor gives one back. -/
def Aside (i : Nat) : Effect → Prop
  | enter j | leave j => j ≠ i
  | _ => True

/-- The effects that any attempt may have take no permits. -/
theorem Plain.aside {e : Effect} (h : e.Plain) (i : Nat) : e.Aside i := by
  cases e with
  | enter | leave => exact h.elim
  | _ => trivial

/-- What is done aside from a bulkhead changes nothing about its permits. -/
theorem Aside.lends {e : Effect} {i n : Nat} {b : Bulkhead} {s : Scene} (he : e.Aside i)
    (h : s.world.Lends i b n) : (s.perform e).2.world.Lends i b n := by
  cases e with
  | clock | invoke | conclude | tell => exact h
  | findBreaker key policy =>
    apply h.of_bulkheads_eq
    show (s.world.findBreaker key policy).2.bulkheads[i]? = _
    rw [World.bulkheads_findBreaker]
  | findBulkhead key policy =>
    obtain ⟨free, hb, hsum⟩ := h
    -- A bulkhead that is made comes after the others, so this one keeps its number.
    have hprefix := World.bulkheads_findBulkhead s.world key policy
    have hlt := (List.getElem?_eq_some_iff.1 hb).1
    refine ⟨free, ?_, hsum⟩
    show (s.world.findBulkhead key policy).2.bulkheads[i]? = _
    rw [← hb, List.prefix_iff_getElem?.1 hprefix i hlt, List.getElem?_eq_getElem hlt]
  | acquire j | settle j success =>
    apply h.of_bulkheads_eq
    exact congrArg (·[i]?) (World.bulkheads_stepBreaker _ _)
  | enter j =>
    apply h.of_bulkheads_eq
    show (s.world.enter j).2.bulkheads[i]? = _
    rw [World.enter, World.bulkheads_stepBulkhead, if_neg he]
  | leave j => exact h.leave_of_ne he

end Effect

/-- What is returned, if anything is, satisfies `R`. -/
def Ending.Brings {α : Type} (R : α → Prop) (ending : Ending α) : Prop :=
  ∀ a, ending = .returned a → R a

namespace Activity

variable {β α γ : Type}

/-! ## After the permit was given back -/

/-- The activity ends without a wait and without bulkhead `i`, and what it returns satisfies `R`. -/
inductive Finishes (i : Nat) (R : α → Prop) : Activity β α → Prop where
  | returned {a : α} (h : R a) : Finishes i R (.ended (.returned a))
  | panicked (message : String) : Finishes i R (.ended (.panicked message))
  | act {e : Effect} {next : e.Answer → Activity β α} (he : e.Aside i)
      (h : ∀ a, Finishes i R (next a)) : Finishes i R (.act e next)

namespace Finishes

variable {i : Nat} {R : α → Prop} {S : γ → Prop} {x : Activity β α}

/-- An activity without the bulkhead may be followed by another one. -/
theorem bind {k : α → Activity β γ} (hx : x.Finishes i R) (hk : ∀ a, R a → (k a).Finishes i S) :
    (x.bind k).Finishes i S := by
  induction hx with
  | returned h => exact hk _ h
  | panicked message => exact .panicked message
  | act he _ ih => exact .act he ih

/-- Notices may stand in front of it. -/
theorem telling (notices : List Notice) (hx : x.Finishes i R) :
    (Activity.telling notices x).Finishes i R := by
  induction notices with
  | nil => exact hx
  | cons notice notices ih => exact .act trivial fun _ => ih

/-- It comes to its end at once. -/
theorem reaches {n : Nat} {b : Bulkhead} (hx : x.Finishes i R) {s : Scene}
    (h : s.world.Lends i b n) :
    ∃ ending s', x.Reaches s (.ended ending) s' ∧ ending.Brings R ∧ s'.world.Lends i b n := by
  induction hx generalizing s with
  | @returned a ha =>
    refine ⟨_, s, .refl _ _, fun a' heq => ?_, h⟩
    -- The value it ends with is the one that it was said to bring.
    obtain rfl : a = a' := by simpa using heq
    exact ha
  | panicked message => exact ⟨_, s, .refl _ _, nofun, h⟩
  | act he _ ih =>
    obtain ⟨ending, s', hreaches, hbrings, hlends⟩ := ih _ (he.lends h)
    exact ⟨ending, s', .act hreaches, hbrings, hlends⟩

end Finishes

/-! ## While a permit is held -/

/-- The activity has a permit of bulkhead `i` and gives it back once, before it ends or when it is
dropped; what it returns satisfies `R`. -/
inductive Holds (i : Nat) (R : α → Prop) : Activity β α → Prop where
  | leave {next : Unit → Activity β α} (h : (next ()).Finishes i R) :
      Holds i R (.act (.leave i) next)
  | act {e : Effect} {next : e.Answer → Activity β α} (he : e.Aside i)
      (h : ∀ a, Holds i R (next a)) : Holds i R (.act e next)
  | wait {w : Wait} {next : Wake β w.limit w.gated → Activity β α} (hleaves : w.leaves.count i = 1)
      (h : ∀ wake, Holds i R (next wake)) : Holds i R (.wait w next)

namespace Holds

variable {i n : Nat} {b : Bulkhead} {R : α → Prop} {S : γ → Prop} {x : Activity β α}

/-- An operation that is run with a permit has it until it ends. -/
theorem of_meets (hx : x.Meets (Effect.Aside i) R) : (x.holding i).Holds i R := by
  induction hx with
  | returned h => exact .leave (.returned h)
  | panicked message => exact .leave (.panicked message)
  | act he _ ih => exact .act he ih
  | @wait w next hleaves _ ih =>
    -- The permits that the operation holds by itself are of other bulkheads.
    have hnone : w.leaves.count i = 0 := List.count_eq_zero.2 fun hi => hleaves i hi rfl
    refine .wait ?_ ih
    show (i :: w.leaves).count i = 1
    rw [List.count_cons_self, hnone]

/-- What follows the permit's return must not wait. -/
theorem bind {k : α → Activity β γ} (hx : x.Holds i R) (hk : ∀ a, R a → (k a).Finishes i S) :
    (x.bind k).Holds i S := by
  induction hx with
  | leave h => exact .leave (h.bind hk)
  | act he _ ih => exact .act he ih
  | wait hleaves _ ih => exact .wait hleaves ih

/-- How far a call that holds a permit gets in the background; `n` more permits are out. -/
inductive Gets (i : Nat) (b : Bulkhead) (n : Nat) (R : α → Prop) : Pause β α → World → Prop where
  /-- It waits, with its permit. -/
  | waiting {w : World} {pause : Wait} {next : Wake β pause.limit pause.gated → Activity β α}
      (h : w.Lends i b (n + 1)) (hleaves : pause.leaves.count i = 1)
      (hholds : ∀ wake, (next wake).Holds i R) : Gets i b n R (.waiting pause next) w
  /-- It has ended and given its permit back. -/
  | ended {w : World} {ending : Ending α} (h : w.Lends i b n) (hbrings : ending.Brings R) :
      Gets i b n R (.ended ending) w

/-- A call that runs in the background gets somewhere. -/
theorem advance (hx : x.Holds i R) (fed : List (Outcome β)) (s : Scene)
    (h : s.world.Lends i b (n + 1)) :
    Gets i b n R (x.advance fed s).1 (x.advance fed s).2.2.world := by
  -- Induction on how the permit is held; the scene and the outcomes that were fed change.
  induction hx generalizing fed s with
  | @leave next hfinishes =>
    obtain ⟨ending, s', hreaches, hbrings, hlends⟩ :=
      hfinishes.reaches (s := { s with world := s.world.leave i }) h.leave
    have hadvance : (Activity.act (.leave i) next).advance fed s = (.ended ending, fed, s') :=
      hreaches.advance_eq fed
    rw [hadvance]
    exact .ended hlends hbrings
  | act he _ ih => exact ih _ fed _ (he.lends h)
  | @wait w next hleaves hnext ih =>
    cases fed with
    | nil => exact .waiting h hleaves hnext
    | cons outcome fed =>
      unfold Activity.advance
      -- Only a gate takes an outcome that was fed before.
      split
      · exact ih _ fed s h
      · exact .waiting h hleaves hnext

end Holds

end Activity

end Safeguard
