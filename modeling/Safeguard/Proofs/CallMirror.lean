import Safeguard.Proofs.OuterLayers
import Safeguard.Proofs.WorldAlike

/-!
# One call in two worlds

A call finds its breaker and its bulkhead under the keys of its name and has nothing to do with any
other. So two worlds in which the same stands under these keys (`World.Alike`) are all one to it,
whatever else there is in them, at whatever time it is made, and under whatever number each world
knows the instances: it makes its attempts at the same times after it was made, is reported alike
and leaves the two worlds alike.

The comparison follows the layers. `Scene.Paired` relates the scenes of the two runs of a call, and
`Activity.Mirrors` says of two activities that they end alike in scenes that are paired, and leave
them paired.

## Key results

- `Mirrors.bind`, `Mirrors.holding`, `mirrors_layered`: the combinators and the layers
- `call_mirrored`: a call in two worlds that are alike
-/

namespace Safeguard

variable {β α γ ε : Type}

/-! ## Scenes of two runs of a call -/

/-- Two runs of calls under one name: when each was made, and the registry in which each has found
its instances. -/
structure Pairing where
  name : String
  began : Nat
  began' : Nat
  registry : Registry
  registry' : Registry

/-- An effect that leaves the layers alone and does not read the time. -/
def Effect.Timeless (e : Effect) : Prop := e.Plain ∧ e ≠ .clock

namespace Scene

/-- The two runs have come to the same point, each in its world and at its time. -/
structure Paired (p : Pairing) (s s' : Scene) : Prop where
  registry : s.world.registry = p.registry
  registry' : s'.world.registry = p.registry'
  alike : s.world.Alike p.name s'.world
  now : ∃ t, s.world.now = p.began + t ∧ s'.world.now = p.began' + t
  starts : s.record.starts.toList.map (· - p.began) = s'.record.starts.toList.map (· - p.began')
  finished : s.record.finished = s'.record.finished

namespace Paired

variable {p : Pairing} {s s' : Scene} {i i' : Nat}

/-- What either run tells is compared elsewhere. -/
theorem tell (h : s.Paired p s') (notices notices' : List Notice) :
    Paired p { s with world := s.world.tell notices }
      { s' with world := s'.world.tell notices' } :=
  ⟨h.registry, h.registry', ⟨h.alike.breaker, h.alike.bulkhead, h.alike.clock⟩, h.now, h.starts,
    h.finished⟩

/-- The same time passes in both worlds. -/
theorem after (h : s.Paired p s') (ms : Nat) :
    Paired p { s with world := s.world.after ms } { s' with world := s'.world.after ms } := by
  obtain ⟨t, ht, ht'⟩ := h.now
  refine ⟨h.registry, h.registry', h.alike.after ms, ⟨t + ms, ?_, ?_⟩, h.starts, h.finished⟩
  · show s.world.now + ms = _
    omega
  · show s'.world.now + ms = _
    omega

/-- What leaves the layers alone is answered alike, but for the time. -/
private theorem timeless (h : s.Paired p s') {e : Effect} (he : e.Timeless) :
    (s.perform e).1 = (s'.perform e).1 ∧ (s.perform e).2.Paired p (s'.perform e).2 := by
  obtain ⟨hplain, hclock⟩ := he
  have halike : s.world.Alike p.name s'.world := h.alike
  -- The two runs are as far from where they began.
  obtain ⟨t, ht, ht'⟩ := h.now
  cases e with
  | clock => exact absurd rfl hclock
  | invoke =>
    -- As many attempts have begun in both runs, and the next one begins after the same time.
    have hsize : s.record.starts.size = s'.record.starts.size := by
      simpa using congrArg List.length h.starts
    refine ⟨hsize, h.registry, h.registry', halike, ⟨t, ht, ht'⟩, ?_, h.finished⟩
    simp only [perform, Array.toList_push, List.map_append, h.starts, List.map_cons, ht, ht',
      List.map_nil, Nat.add_sub_cancel_left]
  | conclude =>
    exact ⟨rfl, h.registry, h.registry', halike, ⟨t, ht, ht'⟩, h.starts,
      congrArg (· + 1) h.finished⟩
  | tell notice => exact ⟨rfl, h.tell _ _⟩
  | _ => exact hplain.elim

/-- Each run moves the breaker that it has found. -/
theorem stepBreaker (h : s.Paired p s')
    (hi : p.registry.breakers.find? (breakerKey p.name) = some i)
    (hi' : p.registry'.breakers.find? (breakerKey p.name) = some i') (after : Breaker → Breaker)
    (notices notices' : Breaker → List Notice) :
    Paired p { s with world := s.world.stepBreaker i after notices }
      { s' with world := s'.world.stepBreaker i' after notices' } where
  registry := (World.registry_stepBreaker ..).trans h.registry
  registry' := (World.registry_stepBreaker ..).trans h.registry'
  alike := by
    refine ⟨?_, ?_, ?_⟩
    · rw [World.breaker?_stepBreaker (h.registry ▸ hi),
        World.breaker?_stepBreaker (h.registry' ▸ hi'), h.alike.breaker]
    · rw [World.bulkhead?_stepBreaker, World.bulkhead?_stepBreaker, h.alike.bulkhead]
    · rw [World.clock_stepBreaker, World.clock_stepBreaker, h.alike.clock]
  now := by simpa only [World.now_stepBreaker] using h.now
  starts := h.starts
  finished := h.finished

/-- Each run moves the bulkhead that it has found. -/
theorem stepBulkhead (h : s.Paired p s')
    (hi : p.registry.bulkheads.find? (bulkheadKey p.name) = some i)
    (hi' : p.registry'.bulkheads.find? (bulkheadKey p.name) = some i')
    (after : Bulkhead → Bulkhead) (notices notices' : Bulkhead → List Notice) :
    Paired p { s with world := s.world.stepBulkhead i after notices }
      { s' with world := s'.world.stepBulkhead i' after notices' } where
  registry := (World.registry_stepBulkhead ..).trans h.registry
  registry' := (World.registry_stepBulkhead ..).trans h.registry'
  alike := by
    refine ⟨?_, ?_, ?_⟩
    · rw [World.breaker?_stepBulkhead, World.breaker?_stepBulkhead, h.alike.breaker]
    · rw [World.bulkhead?_stepBulkhead (h.registry ▸ hi),
        World.bulkhead?_stepBulkhead (h.registry' ▸ hi'), h.alike.bulkhead]
    · rw [(World.SameBreakers.stepBulkhead s.world i after notices).clock,
        (World.SameBreakers.stepBulkhead s'.world i' after notices').clock, h.alike.clock]
  now := by simpa only [World.now_stepBulkhead] using h.now
  starts := h.starts
  finished := h.finished

/-- The two runs are reported alike. -/
private theorem report_eq {ρ : Type} (h : s.Paired p s') (ending : Option (Ending ρ)) :
    s.record.report p.began s.world.now ending = s'.record.report p.began' s'.world.now ending := by
  obtain ⟨t, ht, ht'⟩ := h.now
  simp only [Record.report, h.starts, h.finished, ht, ht', Nat.add_sub_cancel_left]

/-- The bulkheads answer alike. -/
theorem enter (h : s.Paired p s')
    (hi : p.registry.bulkheads.find? (bulkheadKey p.name) = some i)
    (hi' : p.registry'.bulkheads.find? (bulkheadKey p.name) = some i') :
    (s.world.enter i).1 = (s'.world.enter i').1 ∧
      Paired p { s with world := (s.world.enter i).2 }
        { s' with world := (s'.world.enter i').2 } := by
  have hfound : s.world.registry.bulkheads.find? (bulkheadKey p.name) = some i := h.registry ▸ hi
  have hfound' : s'.world.registry.bulkheads.find? (bulkheadKey p.name) = some i' :=
    h.registry' ▸ hi'
  refine ⟨?_, h.stepBulkhead hi hi' _ _ _⟩
  rw [World.enter_answer hfound, World.enter_answer hfound', h.alike.bulkhead]

/-- The breakers answer alike, as they have the same time. -/
theorem acquire (h : s.Paired p s')
    (hi : p.registry.breakers.find? (breakerKey p.name) = some i)
    (hi' : p.registry'.breakers.find? (breakerKey p.name) = some i') :
    (s.world.acquire i).1 = (s'.world.acquire i').1 ∧
      Paired p { s with world := (s.world.acquire i).2 }
        { s' with world := (s'.world.acquire i').2 } := by
  have hfound : s.world.registry.breakers.find? (breakerKey p.name) = some i := h.registry ▸ hi
  have hfound' : s'.world.registry.breakers.find? (breakerKey p.name) = some i' :=
    h.registry' ▸ hi'
  constructor
  · rw [World.acquire_answer hfound, World.acquire_answer hfound', h.alike.breaker, h.alike.clock]
  · unfold World.acquire
    rw [h.alike.clock]
    exact h.stepBreaker hi hi' _ _ _

/-- The breakers record the same outcome at the same time. -/
theorem settle (h : s.Paired p s')
    (hi : p.registry.breakers.find? (breakerKey p.name) = some i)
    (hi' : p.registry'.breakers.find? (breakerKey p.name) = some i') (success : Bool) :
    Paired p { s with world := s.world.settle i success }
      { s' with world := s'.world.settle i' success } := by
  unfold World.settle
  rw [h.alike.clock]
  exact h.stepBreaker hi hi' _ _ _

end Paired

end Scene

namespace Activity

variable {p : Pairing}

/-- Two activities end alike in scenes that are paired, and leave them paired. -/
def Mirrors (p : Pairing) (x x' : Activity β α) : Prop :=
  ∀ s s', Scene.Paired p s s' →
    (x.run s).1 = (x'.run s').1 ∧ (x.run s).2.Paired p (x'.run s').2

namespace Mirrors

variable {x x' : Activity β α} {i i' : Nat}

theorem ended (ending : Ending α) : (ended ending : Activity β α).Mirrors p (.ended ending) :=
  fun _ _ h => ⟨rfl, h⟩

/-- Both do something, and go on alike with the answers that they get. -/
theorem act {e e' : Effect} {next : e.Answer → Activity β α} {next' : e'.Answer → Activity β α}
    (h : ∀ s s', Scene.Paired p s s' → (next (s.perform e).1).Mirrors p (next' (s'.perform e').1) ∧
      (s.perform e).2.Paired p (s'.perform e').2) :
    (Activity.act e next).Mirrors p (.act e' next') := by
  intro s s' hs
  obtain ⟨hnext, hafter⟩ := h s s' hs
  exact hnext _ _ hafter

/-- Both do the same, and the layers have no part in it. -/
private theorem timeless {e : Effect} {next next' : e.Answer → Activity β α} (he : e.Timeless)
    (h : ∀ a, (next a).Mirrors p (next' a)) :
    (Activity.act e next).Mirrors p (.act e next') := by
  refine act fun s s' hs => ?_
  obtain ⟨hanswer, hafter⟩ := hs.timeless he
  exact ⟨hanswer ▸ h _, hafter⟩

/-- Both read the time, each its own. -/
theorem clock {next next' : Nat → Activity β α}
    (h : ∀ t, (next (p.began + t)).Mirrors p (next' (p.began' + t))) :
    (Activity.act .clock next).Mirrors p (.act .clock next') := by
  refine act fun s s' hs => ?_
  obtain ⟨t, ht, ht'⟩ := hs.now
  have hnext := h t
  rw [← ht, ← ht'] at hnext
  exact ⟨hnext, hs⟩

/-- Each asks the bulkhead that it has found. -/
theorem enter {next next' : Except Rejection Unit → Activity β α}
    (hi : p.registry.bulkheads.find? (bulkheadKey p.name) = some i)
    (hi' : p.registry'.bulkheads.find? (bulkheadKey p.name) = some i')
    (h : ∀ a, (next a).Mirrors p (next' a)) :
    (Activity.act (.enter i) next).Mirrors p (.act (.enter i') next') := by
  refine act fun s s' hs => ?_
  obtain ⟨hanswer, hafter⟩ := hs.enter hi hi'
  have hnext := h (s.world.enter i).1
  nth_rewrite 2 [hanswer] at hnext
  exact ⟨hnext, hafter⟩

/-- Each asks the breaker that it has found. -/
theorem acquire {next next' : Except Rejection Unit → Activity β α}
    (hi : p.registry.breakers.find? (breakerKey p.name) = some i)
    (hi' : p.registry'.breakers.find? (breakerKey p.name) = some i')
    (h : ∀ a, (next a).Mirrors p (next' a)) :
    (Activity.act (.acquire i) next).Mirrors p (.act (.acquire i') next') := by
  refine act fun s s' hs => ?_
  obtain ⟨hanswer, hafter⟩ := hs.acquire hi hi'
  have hnext := h (s.world.acquire i).1
  nth_rewrite 2 [hanswer] at hnext
  exact ⟨hnext, hafter⟩

/-- Each records the outcome with the breaker that it has found. -/
theorem settle {next next' : Unit → Activity β α}
    (hi : p.registry.breakers.find? (breakerKey p.name) = some i)
    (hi' : p.registry'.breakers.find? (breakerKey p.name) = some i') (success : Bool)
    (h : (next ()).Mirrors p (next' ())) :
    (Activity.act (.settle i success) next).Mirrors p (.act (.settle i' success) next') :=
  act fun _ _ hs => ⟨h, hs.settle hi hi' success⟩

/-- Both wait for the same time. -/
theorem wait {w w' : Wait} {ms : Nat} {next : Wake β w.limit w.gated → Activity β α}
    {next' : Wake β w'.limit w'.gated → Activity β α} (hlimit : w.limit = some ms)
    (hlimit' : w'.limit = some ms)
    (h : (next (.elapsed ms hlimit)).Mirrors p (next' (.elapsed ms hlimit'))) :
    (Activity.wait w next).Mirrors p (.wait w' next') := by
  intro s s' hs
  rw [run_wait hlimit, run_wait hlimit']
  exact h _ _ (hs.after ms)

/-- Both wait for good. -/
theorem stuck {w w' : Wait} {next : Wake β w.limit w.gated → Activity β α}
    {next' : Wake β w'.limit w'.gated → Activity β α} (hlimit : w.limit = none)
    (hlimit' : w'.limit = none) : (Activity.wait w next).Mirrors p (.wait w' next') := by
  intro s s' hs
  rw [run_stuck hlimit, run_stuck hlimit']
  exact ⟨rfl, hs⟩

/-- An activity that leaves the layers alone and does not read the time mirrors itself. -/
theorem of_meets {P : α → Prop} (hx : x.Meets Effect.Timeless P) :
    x.Mirrors p x := by
  induction hx with
  | returned | panicked => exact .ended _
  | act he _ ih => exact .timeless he ih
  | @wait w next _ _ ih =>
    rcases Option.eq_none_or_eq_some w.limit with h | ⟨ms, h⟩
    · exact .stuck h h
    · exact .wait h h (ih _)

/-- What follows is compared for one result at a time, since both return the same. -/
theorem bind {k k' : α → Activity β γ} (hx : x.Mirrors p x')
    (hk : ∀ a, (k a).Mirrors p (k' a)) : (x.bind k).Mirrors p (x'.bind k') := by
  intro s s' hs
  obtain ⟨hending, hafter⟩ := hx s s' hs
  rw [run_bind, run_bind]
  generalize x.run s = r at hending hafter ⊢
  generalize x'.run s' = r' at hending hafter ⊢
  obtain ⟨ending, t⟩ := r
  obtain ⟨ending', t'⟩ := r'
  obtain rfl : ending = ending' := hending
  -- Both have stopped in the same way, so both go on or neither does.
  match ending with
  | some (.returned a) => exact hk a t t' hafter
  | some (.panicked message) => exact ⟨rfl, hafter⟩
  | none => exact ⟨rfl, hafter⟩

/-- A result is changed in the same way in both. -/
theorem map (f : α → γ) (hx : x.Mirrors p x') : (x.map f).Mirrors p (x'.map f) :=
  hx.bind fun a => .ended (.returned (f a))

/-- What either of them tells does not matter. -/
theorem telling (notices notices' : List Notice) (hx : x.Mirrors p x') :
    (Activity.telling notices x).Mirrors p (Activity.telling notices' x') := by
  intro s s' hs
  rw [(Reaches.telling notices x s).run_eq, (Reaches.telling notices' x' s').run_eq]
  exact hx _ _ (hs.tell notices notices')

/-- Two sleeps of one length. -/
theorem sleep (running : Bool) (ms : Nat) :
    (Activity.sleep running ms : Activity β Unit).Mirrors p (Activity.sleep running ms) :=
  of_meets (Meets.sleep running ms)

/-- Each gives the permit back that it holds. -/
theorem holding (hi : p.registry.bulkheads.find? (bulkheadKey p.name) = some i)
    (hi' : p.registry'.bulkheads.find? (bulkheadKey p.name) = some i') (hx : x.Mirrors p x') :
    (x.holding i).Mirrors p (x'.holding i') := by
  intro s s' hs
  obtain ⟨hending, hafter⟩ := hx s s' hs
  rw [run_holding, run_holding]
  generalize x.run s = r at hending hafter ⊢
  generalize x'.run s' = r' at hending hafter ⊢
  obtain ⟨ending, t⟩ := r
  obtain ⟨ending', t'⟩ := r'
  obtain rfl : ending = ending' := hending
  -- A permit is given back in both runs, or in neither if they wait for good.
  match ending with
  | some ending => exact ⟨rfl, hafter.stepBulkhead hi hi' _ _ _⟩
  | none => exact ⟨rfl, hafter⟩

end Mirrors

end Activity

/-! ## Layers -/

open Activity (Meets Mirrors)

variable {p : Pairing}

/-- A deadline reads the time only to tell how long an attempt took. -/
private theorem Deadline.mirrors_guard (d : Deadline) {operation : Activity β (Except ε γ)}
    (hop : operation.Meets Effect.Timeless fun _ => True) :
    (d.guard operation).Mirrors p (d.guard operation) := by
  unfold Deadline.guard
  cases d.policy.mode with
  | cancel =>
    have hlimited : (operation.deadline d.policy.limit.ceilMillis).Meets Effect.Timeless
        fun _ => True := hop.deadline trivial (fun _ _ => trivial) _
    refine (Mirrors.of_meets hlimited).bind fun result => ?_
    cases result with
    | some result => exact .ended _
    | none => exact .telling _ _ (.ended _)
  | advisory =>
    -- The two times are of the two runs, and only what is told depends on them.
    exact .clock fun _ => (Mirrors.of_meets hop).bind fun result =>
      .clock fun _ => .telling _ _ (.ended _)

/-- Retries decide by the results of the attempts only. -/
private theorem Retry.mirrors_run [Seen ε] (name : String) (policy : RetryPolicy)
    {operation operation' : Activity β (Except ε γ)} (hop : operation.Mirrors p operation') :
    (run name policy operation).Mirrors p (run name policy operation') := by
  have succeeded (made : UInt32) (v : γ) : (success made v : Activity β
      (Except (Fault ε) γ)).Mirrors p (success made v) := by
    unfold success
    split
    · exact .ended _
    · exact .telling _ _ (.ended _)
  -- Induction on the attempts that are left.
  have looped (left : Nat) (made : UInt32) :
      (attempts name policy operation left made).Mirrors p
        (attempts name policy operation' left made) := by
    induction left generalizing made with
    | zero =>
      refine hop.bind fun result => ?_
      cases result with
      | ok v => exact succeeded made v
      | error e =>
        dsimp only
        split <;> exact .telling _ _ (.ended _)
    | succ left ih =>
      refine hop.bind fun result => ?_
      cases result with
      | ok v => exact succeeded made v
      | error e =>
        dsimp only
        split
        · exact .telling _ _ ((Mirrors.sleep _ _).bind fun _ => .telling _ _ (ih _))
        · exact .telling _ _ (.ended _)
  unfold run
  split
  · exact .ended _
  · exact looped _ _

/-- The numbers under which two runs have found a layer, if they have asked for it. -/
inductive Twin (found found' : Option Nat) : Option Nat → Option Nat → Prop
  | absent : Twin found found' none none
  | found {i i' : Nat} (h : found = some i) (h' : found' = some i') :
      Twin found found' (some i) (some i')

namespace Orchestrator

/-- Two runs that ask for the same layers get the same ones, each under its number. -/
private theorem Stands.twin {π : Type} {asked : Option π} {found found' number number' : Option Nat}
    (h : Stands asked found number) (h' : Stands asked found' number') :
    Twin found found' number number' := by
  cases h with
  | absent hasked =>
    cases h' with
    | absent => exact .absent
    -- A layer that is not asked for is not found on the other side either.
    | found hasked' => simp [hasked] at hasked'
  | found hasked hfound =>
    cases h' with
    | absent hasked' => simp [hasked] at hasked'
    | found _ hfound' => exact .found hfound hfound'

/-- An attempt does not depend on the world, deadline and all. -/
private theorem mirrors_attempt (deadline : Option Deadline)
    {operation : Activity β (Except OperationError γ)}
    (hop : operation.Meets Effect.Timeless fun _ => True) :
    (attempt deadline operation).Mirrors p (attempt deadline operation) := by
  cases deadline with
  | none => exact (Mirrors.of_meets hop).map _
  | some d => exact d.mirrors_guard hop

variable {x x' : Activity β (Except (Fault OperationError) γ)} {number number' : Option Nat}

/-- The loop of one run goes like that of the other. -/
private theorem mirrors_retried (retry : Option (String × RetryPolicy)) (hx : x.Mirrors p x') :
    Mirrors p
      (match retry with
        | some (name, policy) => flattened (Retry.run name policy x)
        | none => x)
      (match retry with
        | some (name, policy) => flattened (Retry.run name policy x')
        | none => x') := by
  cases retry with
  | none => exact hx
  | some r => exact (Retry.mirrors_run r.1 r.2 hx).map _

/-- The breakers let both runs in or refuse both, and record the same. -/
private theorem mirrors_broken (hx : x.Mirrors p x') :
    Twin (p.registry.breakers.find? (breakerKey p.name))
      (p.registry'.breakers.find? (breakerKey p.name)) number number' →
    Mirrors p
      (match number with
        | some i => flattened (underBreaker i x)
        | none => x)
      (match number' with
        | some i => flattened (underBreaker i x')
        | none => x') := by
  intro htwin
  -- Both runs have a breaker, or neither has.
  cases htwin with
  | absent => exact hx
  | found hi hi' =>
    refine Mirrors.map _ (.acquire hi hi' fun answer => ?_)
    cases answer with
    | error rejection => exact .telling _ _ (.ended _)
    | ok _ =>
      refine hx.bind fun result => ?_
      cases result with
      | ok v => exact .settle hi hi' _ (.ended _)
      | error fault => exact .settle hi hi' _ (.telling _ _ (.ended _))

/-- The bulkheads let both runs in or turn both away. -/
private theorem mirrors_held (hx : x.Mirrors p x') :
    Twin (p.registry.bulkheads.find? (bulkheadKey p.name))
      (p.registry'.bulkheads.find? (bulkheadKey p.name)) number number' →
    Mirrors p
      (match number with
        | some i => flattened (underBulkhead i x)
        | none => x)
      (match number' with
        | some i => flattened (underBulkhead i x')
        | none => x') := by
  intro htwin
  cases htwin with
  | absent => exact hx
  | found hi hi' =>
    refine Mirrors.map _ (.enter hi hi' fun answer => ?_)
    cases answer with
    | error rejection => exact .ended _
    | ok _ => exact .holding hi hi' (hx.map _)

/-- The two runs tell how long the call took, which is the same. -/
private theorem mirrors_reported (hx : x.Mirrors p x') :
    (reported p.name p.began x).Mirrors p (reported p.name p.began' x') :=
  hx.bind fun _ => .clock fun _ => .telling _ _ (.ended _)

/-- The layers of two runs, from the outermost one inwards. -/
theorem mirrors_layered {layers layers' : Layers} (hdeadline : layers.deadline = layers'.deadline)
    (hretry : layers.retry = layers'.retry)
    (hbreaker : Twin (p.registry.breakers.find? (breakerKey p.name))
      (p.registry'.breakers.find? (breakerKey p.name)) layers.breaker layers'.breaker)
    (hbulkhead : Twin (p.registry.bulkheads.find? (bulkheadKey p.name))
      (p.registry'.bulkheads.find? (bulkheadKey p.name)) layers.bulkhead layers'.bulkhead)
    {operation : Activity β (Except OperationError γ)}
    (hop : operation.Meets Effect.Timeless fun _ => True) :
    (layered layers operation).Mirrors p (layered layers' operation) := by
  unfold layered
  rw [← hdeadline, ← hretry]
  have hretried := mirrors_retried layers.retry (mirrors_attempt (p := p) layers.deadline hop)
  exact mirrors_held (mirrors_broken hretried hbreaker) hbulkhead

end Orchestrator

namespace Orchestrator

variable {w w' : World} {name : String}

/-- Two runs of a call from where each has found its layers. -/
private theorem call_eq_of_mirrors {c x x' : Activity β (Except (Fault OperationError) γ)}
    {s s' : Scene} (hreaches : c.Reaches ⟨w, .empty⟩ (reported p.name p.began x) s)
    (hreaches' : c.Reaches ⟨w', .empty⟩ (reported p.name p.began' x') s')
    (hbegan : w.now = p.began) (hbegan' : w'.now = p.began') (hx : x.Mirrors p x')
    (hs : s.Paired p s') :
    (w.call c).1 = (w'.call c).1 ∧ (w.call c).2.Alike p.name (w'.call c).2 := by
  obtain ⟨hending, hafter⟩ := mirrors_reported hx s s' hs
  -- What was done to find the layers is not reported.
  rw [← hreaches.run_eq, ← hreaches'.run_eq] at hending hafter
  refine ⟨?_, hafter.alike⟩
  simp only [World.call, hending, hbegan, hbegan']
  exact hafter.report_eq _

/-- A call in two worlds that are alike for its name is reported alike and leaves them alike. -/
theorem call_mirrored (halike : w.Alike name w') (hnamed : w.Named) (hnamed' : w'.Named)
    (options : Options) (script : Script β) :
    let c := call name options script.operation
    (w.call c).1 = (w'.call c).1 ∧ (w.call c).2.Alike name (w'.call c).2 := by
  intro c
  obtain ⟨answer, s, hreaches, hrecord, hregisters, hresolved⟩ :=
    resolve_resolves (β := β) name options ⟨w, .empty⟩
  obtain ⟨answer', s', hreaches', hrecord', hregisters', hresolved'⟩ :=
    resolve_resolves (β := β) name options ⟨w', .empty⟩
  -- The same is made in both worlds, so they are alike when the layers are found.
  obtain ⟨hbulkhead, hbreaker⟩ := halike.made_eq hnamed hnamed' options
  rw [← hbulkhead, ← hbreaker] at hregisters'
  let p : Pairing := ⟨name, w.now, w'.now, s.world.registry, s'.world.registry⟩
  have hpaired : s.Paired p s' := by
    refine ⟨rfl, rfl, halike.registers hregisters hregisters', ⟨0, ?_, ?_⟩, ?_, ?_⟩
    · exact hregisters.now
    · exact hregisters'.now
    · rw [hrecord, hrecord']
      rfl
    · rw [hrecord, hrecord']
  have hcall : c.Reaches ⟨w, .empty⟩ _ s := .act ((hreaches.bind _).bind _)
  have hcall' : c.Reaches ⟨w', .empty⟩ _ s' := .act ((hreaches'.bind _).bind _)
  refine call_eq_of_mirrors (p := p) hcall hcall' rfl rfl ?_ hpaired
  -- The layers are found in both worlds or in neither: that depends on the policies only.
  cases hresolved with
  | refused hfault =>
    cases hresolved' with
    | refused hfault' =>
      obtain rfl := Option.some.inj (hfault.symm.trans hfault')
      exact .ended _
    | found hvalid => simp [Options.fault?_eq_none_iff.2 hvalid] at hfault
  | found hvalid hbulkhead hbreaker hdeadline hretry =>
    cases hresolved' with
    | refused hfault => simp [Options.fault?_eq_none_iff.2 hvalid] at hfault
    | found _ hbulkhead' hbreaker' hdeadline' hretry' =>
      have hop : script.operation.Meets Effect.Timeless fun _ => True :=
        script.meets_operation_of ⟨trivial, nofun⟩ ⟨trivial, nofun⟩
      exact mirrors_layered (hdeadline.trans hdeadline'.symm) (hretry.trans hretry'.symm)
        (hbreaker.twin hbreaker') (hbulkhead.twin hbulkhead') hop

end Orchestrator

end Safeguard
