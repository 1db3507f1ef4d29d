import Safeguard.Proofs.OrchestratorEntry

/-!
# What a call finds

Before anything of a call runs, its policies are checked and its instances are found or made, one
layer after another. This file says what comes of it for any options in any world: the first policy
in this order that is not in order decides the answer (`Options.fault?`), and the instances that
were made until then are registered.

## Key results

- `resolve_resolves`: the answer, and the world after it
- `refused_options`: what a call with a policy that is not in order comes to
- `refused_options_not_atomic`: such a call can leave a bulkhead behind
-/

namespace Safeguard

/-! ## Policies -/

/-- What is wrong with the policy of a layer that is asked for. -/
def faultOf {π : Type} (validate : π → Except PolicyError Unit) : Option π → Option PolicyError
  | none => none
  | some p =>
    match validate p with
    | .error e => some e
    | .ok () => none

/-- Nothing is wrong with a policy that is in order, or with none. -/
theorem faultOf_eq_none_iff {π : Type} {validate : π → Except PolicyError Unit} {o : Option π} :
    faultOf validate o = none ↔ ∀ p ∈ o, validate p = .ok () := by
  cases o with
  | none => simp [faultOf]
  | some p => cases h : validate p <;> simp [faultOf, h]

/-- The first thing wrong with the policies of a call, in the order in which they are looked at. -/
def Options.fault? (o : Options) : Option PolicyError :=
  (faultOf BulkheadPolicy.validate o.bulkhead).or <|
    (faultOf BreakerPolicy.validate o.breaker).or <|
      (faultOf TimeoutPolicy.validate o.timeout).or (faultOf RetryPolicy.validate o.retry)

/-- Nothing is wrong with a call if all of its policies are in order. -/
theorem Options.fault?_eq_none_iff {o : Options} : o.fault? = .none ↔ o.Valid := by
  simp only [fault?, Option.or_eq_none_iff, faultOf_eq_none_iff]
  exact ⟨fun ⟨hbulkhead, hbreaker, htimeout, hretry⟩ => ⟨hretry, hbreaker, hbulkhead, htimeout⟩,
    fun h => ⟨h.bulkhead, h.breaker, h.timeout, h.retry⟩⟩

/-! ## Registrations -/

namespace World

/-- The policy of the bulkhead that is made for calls under a name if they ask for one: theirs, if
it is in order and nothing is under the key yet. -/
def madeBulkhead (name : String) (asked : Option BulkheadPolicy) (w : World) :
    Option BulkheadPolicy :=
  asked.filter fun p => p.validate.isOk && (w.registry.bulkheads.find? (bulkheadKey name)).isNone

/-- The policy of the breaker that is made for calls under a name if they ask for one. -/
def madeBreaker (name : String) (asked : Option BreakerPolicy) (w : World) :
    Option BreakerPolicy :=
  asked.filter fun p => p.validate.isOk && (w.registry.breakers.find? (breakerKey name)).isNone

/-- The world `w'` has a bulkhead and a breaker more than `w` under the keys of a name, if policies
for them are given. Nothing else about the instances or the clocks has changed. -/
structure Registers (name : String) (bulkhead : Option BulkheadPolicy)
    (breaker : Option BreakerPolicy) (w w' : World) : Prop where
  bulkheads : w'.bulkheads = w.bulkheads ++ (bulkhead.map (.fresh (bulkheadKey name))).toList
  breakers : w'.breakers = w.breakers ++ (breaker.map (.fresh (breakerKey name))).toList
  bulkheadDirectory : w'.registry.bulkheads = bulkhead.elim w.registry.bulkheads fun _ =>
    w.registry.bulkheads.insert (bulkheadKey name) w.bulkheads.length
  breakerDirectory : w'.registry.breakers = breaker.elim w.registry.breakers fun _ =>
    w.registry.breakers.insert (breakerKey name) w.breakers.length
  now : w'.now = w.now
  clock : w'.clock = w.clock
  listening : w'.listening = w.listening

namespace Registers

variable {name : String} {bulkhead : Option BulkheadPolicy} {breaker : Option BreakerPolicy}
  {w w' w'' : World}

/-- Nothing is registered. -/
theorem refl (name : String) (w : World) : Registers name none none w w :=
  ⟨by simp, by simp, rfl, rfl, rfl, rfl, rfl⟩

/-- Notices register nothing. -/
theorem tell (h : Registers name bulkhead breaker w w') (notices : List Notice) :
    Registers name bulkhead breaker w (w'.tell notices) :=
  ⟨h.bulkheads, h.breakers, h.bulkheadDirectory, h.breakerDirectory, h.now, h.clock, h.listening⟩

/-- The bulkhead is found before the breaker. -/
theorem trans (h : Registers name bulkhead none w w') (h' : Registers name none breaker w' w'') :
    Registers name bulkhead breaker w w'' := by
  have hbreakers : w'.breakers = w.breakers := by simpa using h.breakers
  have hbulkheads : w''.bulkheads = w'.bulkheads := by simpa using h'.bulkheads
  refine ⟨hbulkheads.trans h.bulkheads, ?_, h'.bulkheadDirectory.trans h.bulkheadDirectory, ?_,
    h'.now.trans h.now, h'.clock.trans h.clock, h'.listening.trans h.listening⟩
  · rw [h'.breakers, hbreakers]
  · rw [h'.breakerDirectory, hbreakers, h.breakerDirectory]
    rfl

/-- The key of a bulkhead that was made stands for it, and otherwise for what it stood for. -/
theorem find_bulkhead (h : Registers name bulkhead breaker w w') :
    w'.registry.bulkheads.find? (bulkheadKey name) =
      bulkhead.elim (w.registry.bulkheads.find? (bulkheadKey name)) fun _ =>
        some w.bulkheads.length := by
  rw [h.bulkheadDirectory]
  cases bulkhead with
  | none => rfl
  | some p => exact Directory.find?_insert_self _ _ _

/-- The key of a breaker that was made stands for it, and otherwise for what it stood for. -/
theorem find_breaker (h : Registers name bulkhead breaker w w') :
    w'.registry.breakers.find? (breakerKey name) =
      breaker.elim (w.registry.breakers.find? (breakerKey name)) fun _ =>
        some w.breakers.length := by
  rw [h.breakerDirectory]
  cases breaker with
  | none => rfl
  | some p => exact Directory.find?_insert_self _ _ _

/-- A bulkhead that was made is under its key. -/
theorem bulkhead?_eq {p : BulkheadPolicy} (h : Registers name bulkhead breaker w w')
    (hp : p ∈ bulkhead) : w'.bulkhead? (bulkheadKey name) = some (.fresh (bulkheadKey name) p) := by
  obtain rfl : bulkhead = some p := hp
  have hlast : w'.bulkheads[w.bulkheads.length]? = some (.fresh (bulkheadKey name) p) := by
    rw [h.bulkheads]
    exact List.getElem?_concat_length
  rw [World.bulkhead?, h.find_bulkhead]
  exact hlast

/-- A breaker that was made is under its key. -/
theorem breaker?_eq {p : BreakerPolicy} (h : Registers name bulkhead breaker w w')
    (hp : p ∈ breaker) : w'.breaker? (breakerKey name) = some (.fresh (breakerKey name) p) := by
  obtain rfl : breaker = some p := hp
  have hlast : w'.breakers[w.breakers.length]? = some (.fresh (breakerKey name) p) := by
    rw [h.breakers]
    exact List.getElem?_concat_length
  rw [World.breaker?, h.find_breaker]
  exact hlast

/-- Nothing was made only if the registry is as it was. -/
theorem registry_eq_iff (h : Registers name bulkhead breaker w w')
    (hbulkhead : bulkhead.isSome → w.registry.bulkheads.find? (bulkheadKey name) = none)
    (hbreaker : breaker.isSome → w.registry.breakers.find? (breakerKey name) = none) :
    w'.registry = w.registry ↔ bulkhead = none ∧ breaker = none := by
  constructor
  · intro heq
    -- A key that stood for nothing stands for the new instance.
    have hb := h.find_bulkhead
    have hk := h.find_breaker
    rw [heq] at hb hk
    constructor
    · cases bulkhead with
      | none => rfl
      | some p => simp [hbulkhead rfl] at hb
    · cases breaker with
      | none => rfl
      | some p => simp [hbreaker rfl] at hk
  · rintro ⟨rfl, rfl⟩
    have hb : w'.registry.bulkheads = w.registry.bulkheads := h.bulkheadDirectory
    have hk : w'.registry.breakers = w.registry.breakers := h.breakerDirectory
    calc w'.registry = ⟨w'.registry.breakers, w'.registry.bulkheads⟩ := rfl
      _ = w.registry := by rw [hb, hk]

end Registers

/-- A bulkhead is made only if nothing is under its key. -/
theorem find_eq_none_of_madeBulkhead {name : String} {asked : Option BulkheadPolicy} {w : World}
    (h : (w.madeBulkhead name asked).isSome) :
    w.registry.bulkheads.find? (bulkheadKey name) = none := by
  obtain ⟨p, hp⟩ := Option.isSome_iff_exists.1 h
  have := (Option.filter_eq_some_iff.1 hp).2
  simp_all

/-- A breaker is made only if nothing is under its key. -/
private theorem find_eq_none_of_madeBreaker {name : String} {asked : Option BreakerPolicy}
    {w : World} (h : (w.madeBreaker name asked).isSome) :
    w.registry.breakers.find? (breakerKey name) = none := by
  obtain ⟨p, hp⟩ := Option.isSome_iff_exists.1 h
  have := (Option.filter_eq_some_iff.1 hp).2
  simp_all

/-- What a lookup under a key is answered: the fault of its policy, or the number that stands under
the key after it. -/
inductive Found (validated : Except PolicyError Unit) (number : Option Nat) :
    Except PolicyError Nat → Prop where
  | refused {e : PolicyError} (h : validated = .error e) : Found validated number (.error e)
  | found {i : Nat} (h : validated = .ok ()) (hnumber : number = some i) :
      Found validated number (.ok i)

/-- A bulkhead is found under its key, or is made, unless the policy is refused. -/
private theorem findBulkhead_registers (name : String) (p : BulkheadPolicy) (w : World) :
    ∃ answer w', w.findBulkhead (bulkheadKey name) p = (answer, w') ∧
      Registers name (w.madeBulkhead name (some p)) none w w' ∧
      Found p.validate (w'.registry.bulkheads.find? (bulkheadKey name)) answer := by
  cases hvalid : p.validate with
  | error e =>
    have hmade : w.madeBulkhead name (some p) = none := by
      simp [madeBulkhead, hvalid, Except.isOk, Except.toBool]
    exact ⟨.error e, w, by simp only [findBulkhead, hvalid], hmade ▸ .refl name w, .refused rfl⟩
  | ok _ =>
    -- The registry's own lookup, without the log line that may follow it.
    have hat : ∃ i w', w.bulkheadAt (bulkheadKey name) (bulkheadKey name) p = (.ok i, w') ∧
        Registers name (w.madeBulkhead name (some p)) none w w' ∧
        w'.registry.bulkheads.find? (bulkheadKey name) = some i := by
      cases hfind : w.registry.bulkheads.find? (bulkheadKey name) with
      | some i =>
        have hmade : w.madeBulkhead name (some p) = none := by simp [madeBulkhead, hfind]
        rw [hmade]
        exact ⟨i, w, by simp only [bulkheadAt, hfind], .refl name w, hfind⟩
      | none =>
        have hmade : w.madeBulkhead name (some p) = some p := by
          simp [madeBulkhead, hfind, hvalid, Except.isOk, Except.toBool]
        have hmake : Bulkhead.make (bulkheadKey name) p = .ok (.fresh (bulkheadKey name) p) := by
          simp only [Bulkhead.make, hvalid]
          rfl
        rw [hmade]
        refine ⟨w.bulkheads.length, (w.bulkheadAt (bulkheadKey name) (bulkheadKey name) p).2, ?_⟩
        simp only [bulkheadAt, hfind, hmake]
        exact ⟨rfl, ⟨rfl, by simp [World.tell, addBulkhead], rfl, rfl, rfl, rfl, rfl⟩,
          Directory.find?_insert_self _ _ _⟩
    obtain ⟨i, w', hat, hregisters, hfind⟩ := hat
    refine ⟨.ok i, (w.findBulkhead (bulkheadKey name) p).2, ?_⟩
    simp only [findBulkhead, hvalid, hat]
    split
    · exact ⟨rfl, hregisters.tell _, .found rfl hfind⟩
    · exact ⟨rfl, hregisters, .found rfl hfind⟩

/-- A breaker is found under its key, or is made, unless the policy is refused. -/
private theorem findBreaker_registers (name : String) (p : BreakerPolicy) (w : World) :
    ∃ answer w', w.findBreaker (breakerKey name) p = (answer, w') ∧
      Registers name none (w.madeBreaker name (some p)) w w' ∧
      Found p.validate (w'.registry.breakers.find? (breakerKey name)) answer := by
  cases hvalid : p.validate with
  | error e =>
    have hmade : w.madeBreaker name (some p) = none := by
      simp [madeBreaker, hvalid, Except.isOk, Except.toBool]
    exact ⟨.error e, w, by simp only [findBreaker, hvalid], hmade ▸ .refl name w, .refused rfl⟩
  | ok _ =>
    -- The registry under the key: the breaker that is there, or a new one.
    have hat : ∃ i w', w.breakerAt (breakerKey name) (breakerKey name) p = (.ok i, w') ∧
        Registers name none (w.madeBreaker name (some p)) w w' ∧
        w'.registry.breakers.find? (breakerKey name) = some i := by
      cases hfind : w.registry.breakers.find? (breakerKey name) with
      | some i =>
        have hmade : w.madeBreaker name (some p) = none := by simp [madeBreaker, hfind]
        rw [hmade]
        exact ⟨i, w, by simp only [breakerAt, hfind], .refl name w, hfind⟩
      | none =>
        have hmade : w.madeBreaker name (some p) = some p := by
          simp [madeBreaker, hfind, hvalid, Except.isOk, Except.toBool]
        have hmake : Breaker.make (breakerKey name) p = .ok (.fresh (breakerKey name) p) := by
          simp only [Breaker.make, hvalid]
          rfl
        rw [hmade]
        refine ⟨w.breakers.length, (w.breakerAt (breakerKey name) (breakerKey name) p).2, ?_⟩
        simp only [breakerAt, hfind, hmake]
        exact ⟨rfl, ⟨by simp [World.tell, addBreaker], rfl, rfl, rfl, rfl, rfl, rfl⟩,
          Directory.find?_insert_self _ _ _⟩
    obtain ⟨i, w', hat, hregisters, hfind⟩ := hat
    refine ⟨.ok i, (w.findBreaker (breakerKey name) p).2, ?_⟩
    simp only [findBreaker, hvalid, hat]
    split
    · exact ⟨rfl, hregisters.tell _, .found rfl hfind⟩
    · exact ⟨rfl, hregisters, .found rfl hfind⟩

end World

/-! ## Finding every layer -/

/-- A deadline is checked, then given its name. -/
private theorem Deadline.make_eq (name : String) (p : TimeoutPolicy) :
    Deadline.make name p = p.validate.map fun _ => ⟨name, p⟩ := by
  unfold Deadline.make
  cases p.validate <;> rfl

namespace Orchestrator

open World (Registers)

variable {β γ : Type} {name : String} {options : Options}

/-- The number that a call gets for a layer: none if it does not ask for the layer, and otherwise
what stands under the key. -/
inductive Stands {π : Type} (asked : Option π) (found : Option Nat) : Option Nat → Prop where
  | absent (h : asked = none) : Stands asked found none
  | found {p : π} {i : Nat} (h : asked = some p) (hfound : found = some i) :
      Stands asked found (some i)

/-- What a lookup is answered: the fault of its policy, or else what `Q` says. -/
inductive Looked {π α : Type} (validate : π → Except PolicyError Unit) (asked : Option π)
    (Q : Option α → Prop) : Except PolicyError (Option α) → Prop where
  | refused {e : PolicyError} (h : faultOf validate asked = some e) :
      Looked validate asked Q (.error e)
  | found {a : Option α} (h : faultOf validate asked = none) (ha : Q a) :
      Looked validate asked Q (.ok a)

/-- A layer whose instance is looked up under a key, whatever the lookup does to the world. -/
private theorem findFor_looked {π : Type} {validate : π → Except PolicyError Unit}
    {find : π → Activity β (Except PolicyError Nat)} {s : Scene} {Q : Option π → World → Prop}
    {number : World → Option Nat} (hnone : Q none s.world)
    (hfind : ∀ p, ∃ answer w', (find p).Reaches s (.pure answer) { s with world := w' } ∧
      Q (some p) w' ∧ World.Found (validate p) (number w') answer) (asked : Option π) :
    ∃ answer w', (findFor find asked).Reaches s (.pure answer) { s with world := w' } ∧
      Q asked w' ∧ Looked validate asked (Stands asked (number w')) answer := by
  cases asked with
  | none => exact ⟨_, s.world, .refl _ _, hnone, .found rfl (.absent rfl)⟩
  | some p =>
    obtain ⟨answer, w', hreaches, hq, hfound⟩ := hfind p
    refine ⟨answer.map some, w', hreaches.bind _, hq, ?_⟩
    cases hfound with
    | refused h => exact .refused (by simp [faultOf, h])
    | found h hnumber => exact .found (by simp [faultOf, h]) (.found rfl hnumber)

/-- What a call is answered that asks for its bulkhead. -/
private theorem lookup_bulkhead (name : String) (asked : Option BulkheadPolicy) (s : Scene) :
    ∃ answer w', (findFor (fun p => .perform (.findBulkhead (bulkheadKey name) p)) asked :
        Activity β _).Reaches s (.pure answer) { s with world := w' } ∧
      Registers name (s.world.madeBulkhead name asked) none s.world w' ∧
      Looked BulkheadPolicy.validate asked
        (Stands asked (w'.registry.bulkheads.find? (bulkheadKey name))) answer := by
  refine findFor_looked (Q := fun made w' =>
    Registers name (s.world.madeBulkhead name made) none s.world w') (.refl name _) (fun p => ?_) _
  obtain ⟨answer, w', heq, hregisters, hfound⟩ := World.findBulkhead_registers name p s.world
  refine ⟨answer, w', ?_, hregisters, hfound⟩
  have hperform : s.perform (.findBulkhead (bulkheadKey name) p) =
      (answer, { s with world := w' }) := by
    simp only [Scene.perform, heq]
    rfl
  -- The lookup is one effect, and its answer is handed on.
  exact .act (hperform ▸ .refl _ _)

/-- What a call is answered that asks for its breaker. -/
private theorem lookup_breaker (name : String) (asked : Option BreakerPolicy) (s : Scene) :
    ∃ answer w', (findFor (fun p => .perform (.findBreaker (breakerKey name) p)) asked :
        Activity β _).Reaches s (.pure answer) { s with world := w' } ∧
      Registers name none (s.world.madeBreaker name asked) s.world w' ∧
      Looked BreakerPolicy.validate asked
        (Stands asked (w'.registry.breakers.find? (breakerKey name))) answer := by
  refine findFor_looked (Q := fun made w' =>
    Registers name none (s.world.madeBreaker name made) s.world w') (.refl name _) (fun p => ?_) _
  obtain ⟨answer, w', heq, hregisters, hfound⟩ := World.findBreaker_registers name p s.world
  refine ⟨answer, w', ?_, hregisters, hfound⟩
  have hperform : s.perform (.findBreaker (breakerKey name) p) =
      (answer, { s with world := w' }) := by
    simp only [Scene.perform, heq]
    rfl
  exact .act (hperform ▸ .refl _ _)

/-- A policy that is only checked. -/
private theorem lookup_checked {π α : Type} (validate : π → Except PolicyError Unit) (g : π → α)
    (asked : Option π) (s : Scene) :
    ∃ answer, (findFor (fun p => .pure ((validate p).map fun _ => g p)) asked :
        Activity β _).Reaches s (.pure answer) s ∧
      Looked validate asked (· = asked.map g) answer := by
  cases asked with
  | none => exact ⟨_, .refl _ _, .found rfl rfl⟩
  | some p =>
    refine ⟨((validate p).map fun _ => g p).map some, .refl _ _, ?_⟩
    cases hvalid : validate p with
    | error e => exact .refused (by simp [faultOf, hvalid])
    | ok _ => exact .found (by simp [faultOf, hvalid]) rfl

/-- A lookup that is refused stops the others; otherwise the next one goes on. -/
theorem Looked.bindOk {π α : Type} {validate : π → Except PolicyError Unit} {asked : Option π}
    {Q : Option α → Prop} {answer : Except PolicyError (Option α)}
    {x : Activity β (Except PolicyError (Option α))}
    {k : Option α → Activity β (Except PolicyError γ)}
    {s s' : Scene} {P : Except PolicyError γ → Scene → Prop} (h : Looked validate asked Q answer)
    (hx : x.Reaches s (.pure answer) s')
    (hrefused : ∀ e, faultOf validate asked = some e → P (.error e) s')
    (hfound : ∀ a, faultOf validate asked = none → Q a →
      ∃ answer s'', (k a).Reaches s' (.pure answer) s'' ∧ P answer s'') :
    ∃ answer s'', (x.bindOk k).Reaches s (.pure answer) s'' ∧ P answer s'' := by
  cases h with
  | refused he => exact ⟨_, s', hx.bind _, hrefused _ he⟩
  | found hnone ha =>
    obtain ⟨answer, s'', hk, hp⟩ := hfound _ hnone ha
    exact ⟨answer, s'', (reaches_bindOk hx).trans hk, hp⟩

/-- What a call is answered that asks for its layers, given the world after that. -/
inductive Resolved (name : String) (options : Options) (w : World) :
    Except PolicyError Layers → Prop where
  | refused {e : PolicyError} (h : options.fault? = some e) : Resolved name options w (.error e)
  | found {layers : Layers} (hvalid : options.Valid)
      (hbulkhead : Stands options.bulkhead (w.registry.bulkheads.find? (bulkheadKey name))
        layers.bulkhead)
      (hbreaker : Stands options.breaker (w.registry.breakers.find? (breakerKey name))
        layers.breaker)
      (hdeadline : layers.deadline = options.timeout.map (⟨timeoutKey name, ·⟩))
      (hretry : layers.retry = options.retry.map fun p => (retryKey name, p.unwrapping)) :
      Resolved name options w (.ok layers)

/-- The policy of the breaker that a call makes: none if its bulkhead was refused before. -/
def breakerMade (name : String) (options : Options) (w : World) : Option BreakerPolicy :=
  if (faultOf BulkheadPolicy.validate options.bulkhead).isSome then none
  else w.madeBreaker name options.breaker

/-- A call asks for its layers. -/
theorem resolve_resolves (name : String) (options : Options) (s : Scene) :
    ∃ answer s', (resolve name options : Activity β _).Reaches s (.pure answer) s' ∧
      s'.record = s.record ∧
      Registers name (s.world.madeBulkhead name options.bulkhead) (breakerMade name options s.world)
        s.world s'.world ∧
      Resolved name options s'.world answer := by
  -- The bulkhead and the breaker are looked up, and then nothing more is registered.
  obtain ⟨bulkhead, w, hbulkhead, hregisters, hlooked⟩ :=
    lookup_bulkhead (β := β) name options.bulkhead s
  refine hlooked.bindOk hbulkhead (fun e he => ⟨rfl, ?_, .refused ?_⟩) fun i hb hi => ?_
  · simpa [breakerMade, he] using hregisters
  · simp [Options.fault?, he]
  obtain ⟨breaker, w', hbreaker, hregisters', hlooked'⟩ :=
    lookup_breaker (β := β) name options.breaker { s with world := w }
  have hmade : breakerMade name options s.world = w.madeBreaker name options.breaker := by
    simp [breakerMade, hb, World.madeBreaker, hregisters.breakerDirectory]
  have hboth := hregisters.trans hregisters'
  rw [← hmade] at hboth
  have hdirectory : w'.registry.bulkheads = w.registry.bulkheads := hregisters'.bulkheadDirectory
  refine hlooked'.bindOk hbreaker (fun e he => ⟨rfl, hboth, .refused ?_⟩) fun j hk hj => ?_
  · simp [Options.fault?, hb, he]
  -- The deadline and the retries are only checked.
  obtain ⟨deadline, hdeadline, hchecked⟩ := lookup_checked (β := β) TimeoutPolicy.validate
    (fun p => (⟨timeoutKey name, p⟩ : Deadline)) options.timeout { s with world := w' }
  simp only [← Deadline.make_eq] at hdeadline
  refine hchecked.bindOk hdeadline (fun e he => ⟨rfl, hboth, .refused ?_⟩) fun d ht hd => ?_
  · simp [Options.fault?, hb, hk, he]
  obtain ⟨retry, hretry, hchecked'⟩ := lookup_checked (β := β) RetryPolicy.validate
    (fun p => (retryKey name, p.unwrapping)) options.retry { s with world := w' }
  refine hchecked'.bindOk hretry (fun e he => ⟨rfl, hboth, .refused ?_⟩) fun r hr hpolicy => ?_
  · simp [Options.fault?, hb, hk, ht, he]
  have hvalid : options.Valid := by
    rw [← Options.fault?_eq_none_iff, Options.fault?, hb, hk, ht, hr]
    rfl
  exact ⟨_, _, .refl _ _, rfl, hboth, .found hvalid (hdirectory ▸ hi) hj hd hpolicy⟩

/-! ## Calls with a policy that is not in order -/

/-- At its end a call tells its duration and its outcome. -/
theorem reaches_reported {x : Activity β (Except (Fault OperationError) γ)}
    {result : Except (Fault OperationError) γ} {s s' : Scene} (name : String) (began : Nat)
    (h : x.Reaches s (.ended (.returned result)) s') :
    (x.bind fun result => .act .clock fun (now : Nat) =>
      .telling (report name (now - began) result) (.pure result)).Reaches s
        (.ended (.returned result))
        { s' with world := s'.world.tell (report name (s'.world.now - began) result) } :=
  (h.bind _).trans (.act (.telling _ _ _))

/-- A call ends at once with the first fault of its policies. -/
private theorem call_refused (name : String) {e : PolicyError} (hfault : options.fault? = some e)
    (operation : Activity β (Except OperationError γ)) (s : Scene) :
    ∃ s', (call name options operation).Reaches s
        (.ended (.returned (.error (.invalidConfiguration e.message)))) s' ∧
      s'.record = s.record ∧
      Registers name (s.world.madeBulkhead name options.bulkhead) (breakerMade name options s.world)
        s.world s'.world := by
  obtain ⟨answer, s', hreaches, hrecord, hregisters, hresolved⟩ :=
    resolve_resolves (β := β) name options s
  cases hresolved with
  | found hvalid => simp [Options.fault?_eq_none_iff.2 hvalid] at hfault
  | refused he =>
    obtain rfl := Option.some.inj (hfault.symm.trans he)
    exact ⟨_, .act (reaches_reported name s.world.now (hreaches.bind _)), hrecord,
      hregisters.tell _⟩

/-- The report on a call that was refused for a policy: no attempt was made and no time has
passed. -/
def invalidReport (e : PolicyError) : Report (Except (Fault OperationError) γ) :=
  ⟨some (.returned (.error (.invalidConfiguration e.message))), [], 0, some 0⟩

/-- A call with a policy that is not in order is refused with the first fault of its policies, and
the operation does not run. What was there stays as it was. But the instances that the call asks for
before the refused layer are made and stay under their keys, with the policies of the refused call;
the registry is as it was only if there are none. -/
theorem refused_options (name : String) (hinvalid : ¬ options.Valid)
    (operation : Activity β (Except OperationError γ))
    (f : Floor β (Except (Fault OperationError) γ)) :
    ∃ e w', options.fault? = some e ∧
      (∀ id, f.start id (call name options operation) =
        ({ f with world := w' } : Floor _ _).complete id (invalidReport e)) ∧
      f.call (call name options operation) =
        (invalidReport e, ({ f with world := w' } : Floor _ _).runUntil f.world.now) ∧
      Registers name (f.world.madeBulkhead name options.bulkhead)
        (breakerMade name options f.world) f.world w' ∧
      (∀ p ∈ f.world.madeBulkhead name options.bulkhead,
        w'.bulkhead? (bulkheadKey name) = some (.fresh (bulkheadKey name) p)) ∧
      (∀ p ∈ breakerMade name options f.world,
        w'.breaker? (breakerKey name) = some (.fresh (breakerKey name) p)) ∧
      (w'.registry = f.world.registry ↔ f.world.madeBulkhead name options.bulkhead = none ∧
        breakerMade name options f.world = none) := by
  obtain ⟨e, hfault⟩ : ∃ e, options.fault? = some e :=
    Option.ne_none_iff_exists'.1 fun hnone => hinvalid (Options.fault?_eq_none_iff.1 hnone)
  obtain ⟨⟨w', record⟩, hreaches, hrecord, hregisters⟩ :=
    call_refused name hfault operation ⟨f.world, .empty⟩
  obtain rfl : record = .empty := hrecord
  have hreport : Record.empty.report f.world.now w'.now
      (some (.returned (.error (.invalidConfiguration e.message)))) =
        (invalidReport e : Report (Except (Fault OperationError) γ)) := by
    have hnow : w'.now = f.world.now := hregisters.now
    simp [invalidReport, Record.report, Record.empty, Ending.returned?, hnow]
  refine ⟨e, w', hfault, fun id => ?_, ?_, hregisters, fun p hp => hregisters.bulkhead?_eq hp,
    fun p hp => hregisters.breaker?_eq hp, ?_⟩
  · rw [hreaches.start_eq, hreport]
  · have hforeground := hreaches.foreground_eq f
    have hnow : w'.now = f.world.now := hregisters.now
    have hend : Floor.foreground (call name options operation) .empty f =
        (some _, .empty, { f with world := w' }) := hforeground
    simp only [Floor.call, hend]
    rw [hreport, hnow]
  -- An instance is made only under a key that was free.
  · refine hregisters.registry_eq_iff World.find_eq_none_of_madeBulkhead fun hmade => ?_
    unfold breakerMade at hmade
    split at hmade
    · cases hmade
    · exact World.find_eq_none_of_madeBreaker hmade

/-- A call asks for a bulkhead and for no attempt at all: it is refused, and leaves the bulkhead. -/
theorem refused_options_left :
    let options := { Options.none with
      bulkhead := some ⟨1⟩
      retry := some { RetryPolicy.standard with maxAttempts := 0 } }
    let operation : Activity Nat (Except OperationError Nat) :=
      (Script.repeating (.timed .zero (.value 0))).operation
    let f : Floor Nat (Except (Fault OperationError) Nat) := .ofWorld (.start true)
    let g := f.start "first" (call "api" options operation)
    ¬ options.Valid ∧ g.completed = [("first", invalidReport .noAttempts)] ∧
      g.world.bulkhead? "apiBulkhead" = some (.fresh "apiBulkhead" ⟨1⟩) := by
  intro options operation f g
  have hfault : options.fault? = some .noAttempts := by decide +kernel
  have hinvalid : ¬ options.Valid := by
    rw [← Options.fault?_eq_none_iff, hfault]
    simp
  obtain ⟨e, w', he, hstart, -, -, hbulkhead, -, -⟩ := refused_options "api" hinvalid operation f
  obtain rfl : .noAttempts = e := Option.some.inj (hfault.symm.trans he)
  have hg : g = ({ f with world := w' } : Floor _ _).complete "first" (invalidReport .noAttempts) :=
    hstart "first"
  have hmade : f.world.madeBulkhead "api" options.bulkhead = some ⟨1⟩ := by decide +kernel
  rw [hg]
  exact ⟨hinvalid, rfl, hbulkhead _ hmade⟩

/-- A refused call does not always leave the registry as it was. -/
theorem refused_options_not_atomic :
    ¬ ∀ (name : String) (options : Options) (operation : Activity Nat (Except OperationError Nat))
      (f : Floor Nat (Except (Fault OperationError) Nat)) (id : String), ¬ options.Valid →
        (f.start id (call name options operation)).world.registry = f.world.registry := by
  intro h
  let options := { Options.none with
    bulkhead := some ⟨1⟩
    retry := some { RetryPolicy.standard with maxAttempts := 0 } }
  have hinvalid : ¬ options.Valid := by
    rw [← Options.fault?_eq_none_iff]
    decide +kernel
  have hsame := h "api" options (Script.repeating (.timed .zero (.value 0))).operation
    (.ofWorld (.start true)) "first" hinvalid
  exact absurd (congrArg (·.bulkheads.find? "apiBulkhead") hsame) (by decide +kernel)

end Orchestrator

end Safeguard
