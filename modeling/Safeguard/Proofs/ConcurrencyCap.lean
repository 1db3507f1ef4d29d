import Safeguard.Proofs.LayerResolution
import Safeguard.Proofs.PermitBalance
import Safeguard.Proofs.WorldLasting

/-!
# The cap on calls under a name

Calls under one name that ask for a bulkhead share it, and each of them holds a permit from before
its first attempt to its end, delays between attempts included. The bulkhead is made by the first of
them and keeps that call's policy, so this policy caps them all. The balance of permits
(`Floor.Balanced`) carries the argument: as many permits are out as calls wait.

## Key results

- `Spares`: what goes on inside the bulkhead leaves its permits alone
- `layered_balanced`: a call is let in, or is refused and leaves the balance as it was
- `concurrency_capped`: any interleaving of calls
-/

namespace Safeguard

/-- A call takes no permit outside of it. -/
private theorem Floor.permits_advance {β ρ : Type} (f : Floor β ρ) (id : String) (began : Nat)
    (record : Record) (fed : List (Outcome β)) (x : Activity β ρ) :
    (f.advance id began record fed x).permits = f.permits := by
  unfold Floor.advance
  split <;> rfl

/-- Permits outside of calls stay as they are. -/
private theorem Floor.kept_permits {β ρ : Type} (l : List (String × Nat)) :
    Floor.Kept fun f : Floor β ρ => f.permits = l where
  atTime _ _ h := h
  wake _ _ _ h _ _ _ := (permits_advance ..).trans h
  fed _ _ _ h := h
  drop _ _ _ _ h _ _ := h

namespace Orchestrator

open Activity (Meets Holds)
open Floor (LetIn Balanced refusal)

variable {β γ : Type} {name : String} {i n : Nat}

/-! ## Inside the bulkhead -/

/-- Before its first wait an activity comes to a point from which it leaves bulkhead `i` alone and
does not report its refusal; no permit has changed hands so far. -/
def Spares (i : Nat) (x : Activity β (Except (Fault OperationError) γ)) (s : Scene) : Prop :=
  ∃ y s', x.Reaches s y s' ∧ s'.record = s.record ∧
    (∀ b n, s.world.Lends i b n → s'.world.Lends i b n) ∧ y.Meets (Effect.Aside i) LetIn

/-- What is no refusal at all is not one by a bulkhead. -/
theorem Unrefused.letIn {ε : Type} {result : Except (Fault ε) γ} (h : Unrefused result) :
    LetIn result :=
  fun name limit => h (.bulkheadFull name limit)

/-- What is known of the faults on one level is known when the two levels are made one. -/
private theorem meets_flattened {E : Effect → Prop} {R : Except (Fault OperationError) γ → Prop}
    {x : Activity β (Except (Fault (Fault OperationError)) γ)}
    (hx : x.Meets E fun result => R (result.mapError .flatten)) : (flattened x).Meets E R :=
  hx.map fun _ h => h

/-- Neither an attempt nor a breaker concerns the bulkhead. -/
private theorem broken_spares (breaker : Option Nat)
    {x : Activity β (Except (Fault OperationError) γ)}
    (hx : x.Meets (Effect.Aside i) Unrefused) (s : Scene) :
    Spares i (match breaker with
      | some j => flattened (underBreaker j x)
      | none => x) s := by
  cases breaker with
  | none => exact ⟨x, s, .refl _ _, rfl, fun _ _ => id, hx.mono (fun _ => id) fun _ h => h.letIn⟩
  | some j =>
    have hlends : ∀ b n, s.world.Lends i b n → (s.perform (.acquire j)).2.world.Lends i b n :=
      fun b n h => Effect.Aside.lends (e := .acquire j) trivial h
    rcases s.world.acquire_eq j with hanswer | ⟨b, -, hanswer⟩
    · have hreaches : (underBreaker j x).Reaches s _ _ := .answered hanswer (.refl _ _)
      refine ⟨_, _, hreaches.bind _, rfl, hlends, meets_flattened ?_⟩
      refine hx.bind fun result hresult => ?_
      -- The result is recorded, and then stands for itself again.
      cases result with
      | ok v => exact .act trivial fun _ => .returned hresult.letIn
      | error fault =>
        exact .act trivial fun _ => .telling (fun _ _ => trivial) (.returned hresult.letIn)
    · have hreaches : (underBreaker j x).Reaches s
          (.telling [Breaker.refusal] (.pure (.error (.circuitOpen b.name)))) _ :=
        .answered hanswer (.refl _ _)
      have hopen : LetIn (.error (.circuitOpen b.name) : Except (Fault OperationError) γ) := by
        intro name limit
        simp
      have hrefused : (flattened
          (.telling [Breaker.refusal] (.pure (.error (.circuitOpen b.name)))) :
          Activity β (Except (Fault OperationError) γ)).Meets (Effect.Aside i) LetIn :=
        meets_flattened (.telling (fun _ _ => trivial) (.returned hopen))
      exact ⟨_, _, hreaches.bind _, rfl, hlends, hrefused⟩

/-- What is left of a call once it has its permit. -/
private theorem spares_layered (layers : Layers) {operation : Activity β (Except OperationError γ)}
    (hop : operation.Meets Effect.Plain fun _ => True) (s : Scene) :
    Spares i (layered { layers with bulkhead := none } operation) s := by
  have haside := hop.mono (fun _ h => h.aside i) fun _ => id
  have htell : ∀ notice, Effect.Aside i (.tell notice) := fun _ => trivial
  exact broken_spares layers.breaker
    (meets_retried htell layers.retry (meets_attempt trivial htell layers.deadline haside)) s

/-- A call that has its permit holds it to its end, and then tells its outcome. -/
theorem Spares.held {x : Activity β (Except (Fault OperationError) γ)} {s : Scene}
    (h : Spares i x s) (name : String) (began : Nat) :
    ∃ y s', ((flattened ((x.map fun result => result.mapError .operation).holding i)).bind
        fun result => .act .clock fun (now : Nat) =>
          .telling (report name (now - began) result) (.pure result)).Reaches s y s' ∧
      s'.record = s.record ∧ (∀ b n, s.world.Lends i b n → s'.world.Lends i b n) ∧
      y.Holds i LetIn := by
  obtain ⟨y, s', hxy, hrecord, hlends, hy⟩ := h
  refine ⟨_, s', (((hxy.bind _).holding i).bind _).bind _, hrecord, hlends, ?_⟩
  have hheld : ((y.bind fun result => .pure (result.mapError Fault.operation)).holding i).Holds i
      fun result => LetIn (result.mapError Fault.flatten) := by
    -- The result is wrapped and unwrapped on the way, and is no refusal after that either.
    refine Holds.of_meets (hy.bind fun result hresult => .returned ?_)
    cases result <;> exact hresult
  refine (hheld.bind fun result hresult => .returned hresult).bind fun result hresult => ?_
  exact .act trivial fun _ => .telling _ (.returned hresult)

/-- A call that found bulkhead `i` is let in, or is refused and leaves the balance as it was. -/
theorem layered_balanced {b : Bulkhead}
    {done : List (String × Report (Except (Fault OperationError) γ))} {layers : Layers}
    {f : Floor β (Except (Fault OperationError) γ)} (h : Balanced i b LetIn done 0 f)
    (hlayers : layers.bulkhead = some i) {operation : Activity β (Except OperationError γ)}
    (hop : operation.Meets Effect.Plain fun _ => True) (name : String) (began : Nat)
    (id : String) :
    let x := (layered layers operation).bind fun result => .act .clock fun (now : Nat) =>
      .telling (report name (now - began) result) (.pure result)
    f.jobs.length + f.permits.length < b.policy.maxConcurrent.toNat ∧
        Balanced i { b with totalAdmitted := b.totalAdmitted + 1 } LetIn f.completed 0
          (f.start id x) ∨
      f.jobs.length + f.permits.length = b.policy.maxConcurrent.toNat ∧
        ∃ w, f.start id x = ({ f with world := w } : Floor β _).complete id
            (refusal b.name b.policy) ∧
          Balanced i { b with totalRefused := b.totalRefused + 1 } LetIn done 0
            { f with world := w } := by
  intro x
  obtain ⟨_, breaker, deadline, retry⟩ := layers
  obtain rfl : _ = some i := hlayers
  let rest := layered ⟨none, breaker, deadline, retry⟩ operation
  -- A permit is taken, or the call goes no further than the bulkhead.
  rcases h.lends.enter with ⟨hlt, hanswer, hlends, -⟩ | ⟨hfull, hanswer, hlends, -⟩
  · have hreaches : (underBulkhead i rest).Reaches ⟨f.world, .empty⟩ _
        ⟨(f.world.enter i).2, .empty⟩ := .answered hanswer (.refl _ _)
    obtain ⟨y, s, hy, hrecord, hkeeps, hholds⟩ :=
      (spares_layered ⟨none, breaker, deadline, retry⟩ hop _).held name began
    exact .inl ⟨hlt, h.sinceNow.start (((hreaches.bind _).bind _).trans hy) (hkeeps _ _ hlends)
      hholds id⟩
  · have hreaches : (underBulkhead i rest).Reaches ⟨f.world, .empty⟩ _
        ⟨(f.world.enter i).2, .empty⟩ := .answered hanswer (.refl _ _)
    have hrefused : (flattened (underBulkhead i rest)).Reaches ⟨f.world, .empty⟩
        (.ended (.returned (.error (.bulkheadFull b.name b.policy.maxConcurrent))))
        ⟨(f.world.enter i).2, .empty⟩ := hreaches.bind _
    let told := report name ((f.world.enter i).2.now - began)
      (.error (.bulkheadFull b.name b.policy.maxConcurrent) :
        Except (Fault OperationError) γ)
    have hended : x.Reaches ⟨f.world, .empty⟩
        (.ended (.returned (.error (.bulkheadFull b.name b.policy.maxConcurrent))))
        ⟨(f.world.enter i).2.tell told, .empty⟩ := reaches_reported name began hrefused
    refine .inr ⟨hfull, (f.world.enter i).2.tell told, ?_, h.inWorld (hlends.of_bulkheads_eq rfl)⟩
    have hnow : ((f.world.enter i).2.tell told).now = f.world.now := World.now_enter
    rw [hended.start_eq, hnow]
    simp [refusal, Record.report, Record.empty, Ending.returned?]

/-! ## Calls that share a bulkhead -/

/-- A call that asks for a bulkhead, with every policy in order. -/
structure Request (β γ : Type) where
  options : Options
  bulkhead : BulkheadPolicy
  operation : Activity β (Except OperationError γ)
  valid : options.Valid
  asks : options.bulkhead = some bulkhead
  /-- The operation does not use instances itself. -/
  plain : operation.Meets Effect.Plain fun _ => True

/-- A call of a scripted operation with a bulkhead and no other layer. -/
def Request.bulkheadOnly (policy : BulkheadPolicy) (hvalid : policy.validate = .ok ())
    (script : Script β) : Request β β where
  options := { Options.none with bulkhead := some policy }
  bulkhead := policy
  operation := script.operation
  valid := ⟨nofun, nofun, fun _ hp => Option.some.inj hp ▸ hvalid, nofun⟩
  asks := rfl
  plain := script.meets_operation

/-- One turn of an interleaving of calls. -/
inductive Turn (β γ : Type) where
  | start (id : String) (request : Request β γ)
  | feed (id : String) (outcome : Outcome β)
  | drop (id : String)
  | sleep (d : Duration)
  | advance (span : Duration)

namespace Turn

/-- The step that a turn is for calls under a name. -/
def step (name : String) : Turn β γ → Floor.Step β (Except (Fault OperationError) γ)
  | start id request => .start id (call name request.options request.operation)
  | feed id outcome => .feed id outcome
  | drop id => .drop id
  | sleep d => .sleep d
  | advance span => .advance span

/-- The bulkhead policy that a call brings. -/
def policy? : Turn β γ → Option BulkheadPolicy
  | start _ request => some request.bulkhead
  | _ => none

end Turn

/-- The calls under a name share a bulkhead of policy `policy`; the permits that are out are those
of the calls that wait. -/
structure Serving (name : String) (policy : BulkheadPolicy)
    (f : Floor β (Except (Fault OperationError) γ)) : Prop where
  permits : f.permits = []
  shared : ∃ i b, f.world.registry.bulkheads.find? (bulkheadKey name) = some i ∧
    b.name = bulkheadKey name ∧ b.policy = policy ∧ Balanced i b LetIn f.completed 0 f

/-- No call was made under the name yet. -/
structure Idle (name : String) (f : Floor β (Except (Fault OperationError) γ)) : Prop where
  permits : f.permits = []
  jobs : f.jobs = []
  unmade : f.world.registry.bulkheads.find? (bulkheadKey name) = none

variable {f : Floor β (Except (Fault OperationError) γ)}

/-- The bulkhead that a call finds: number `i` in the world `w`, shared by the calls that wait. -/
structure Finds (name : String) (policy : BulkheadPolicy) (request : Request β γ)
    (f : Floor β (Except (Fault OperationError) γ)) (layers : Layers) (w : World) (i : Nat)
    (b : Bulkhead) : Prop where
  reaches : (resolve name request.options : Activity β _).Reaches ⟨f.world, .empty⟩
    (.pure (.ok layers)) ⟨w, .empty⟩
  now : w.now = f.world.now
  number : layers.bulkhead = some i
  registered : w.registry.bulkheads.find? (bulkheadKey name) = some i
  name_eq : b.name = bulkheadKey name
  policy_eq : b.policy = policy
  balanced : Balanced i b LetIn f.completed 0 { f with world := w }

/-- A call whose policies are in order finds layers. -/
private theorem Request.resolves (request : Request β γ) (name : String) (w : World) :
    ∃ layers w' i made, (resolve name request.options : Activity β _).Reaches ⟨w, .empty⟩
        (.pure (.ok layers)) ⟨w', .empty⟩ ∧
      World.Registers name (w.madeBulkhead name (some request.bulkhead)) made w w' ∧
      layers.bulkhead = some i ∧ w'.registry.bulkheads.find? (bulkheadKey name) = some i := by
  obtain ⟨answer, ⟨w', record⟩, hreaches, hrecord, hregisters, hresolved⟩ :=
    resolve_resolves (β := β) name request.options ⟨w, .empty⟩
  obtain rfl : record = .empty := hrecord
  rw [request.asks] at hregisters
  cases hresolved with
  | refused hfault => simp [Options.fault?_eq_none_iff.2 request.valid] at hfault
  | @found layers _ hbulkhead =>
    rw [request.asks] at hbulkhead
    obtain ⟨bulkhead, breaker, deadline, retry⟩ := layers
    -- The call has asked for a bulkhead, so it has found one.
    cases hbulkhead with
    | absent h => cases h
    | found _ hfound => exact ⟨_, w', _, _, hreaches, hregisters, rfl, hfound⟩

/-- The first call makes the bulkhead, with its own policy. -/
private theorem Idle.finds (h : Idle name f) (request : Request β γ) :
    ∃ layers w i b, Finds name request.bulkhead request f layers w i b := by
  obtain ⟨layers, w, i, made, hreaches, hregisters, hnumber, hfind⟩ :=
    request.resolves name f.world
  have hvalid : request.bulkhead.validate = .ok () := request.valid.bulkhead _ request.asks
  have hmade : f.world.madeBulkhead name (some request.bulkhead) = some request.bulkhead := by
    simp [World.madeBulkhead, h.unmade, hvalid, Except.isOk, Except.toBool]
  have hfresh := hregisters.bulkhead?_eq hmade
  rw [World.bulkhead?, hfind] at hfresh
  have hlends : w.Lends i (.fresh (bulkheadKey name) request.bulkhead) 0 :=
    World.lends_fresh hfresh
  refine ⟨layers, w, i, .fresh (bulkheadKey name) request.bulkhead, hreaches, hregisters.now,
    hnumber, hfind, rfl, rfl, ?_⟩
  -- No call waits and nobody holds a permit, so none of the new bulkhead is out.
  refine ⟨?_, by simp [h.jobs], by simp [h.permits], by simp [h.permits], [], by simp,
    List.forall_mem_nil _⟩
  show w.Lends i _ (f.jobs.length + f.permits.length + 0)
  rw [h.jobs, h.permits]
  exact hlends

/-- A later call finds the bulkhead as it is. -/
private theorem Serving.finds {policy : BulkheadPolicy} (h : Serving name policy f)
    (request : Request β γ) : ∃ layers w i b, Finds name policy request f layers w i b := by
  obtain ⟨i, b, hfind, hname, hpolicy, hbalanced⟩ := h.shared
  obtain ⟨layers, w, j, made, hreaches, hregisters, hnumber, hfound⟩ :=
    request.resolves name f.world
  have hmade : f.world.madeBulkhead name (some request.bulkhead) = none := by
    simp [World.madeBulkhead, hfind]
  rw [hmade] at hregisters
  have hbulkheads : w.bulkheads = f.world.bulkheads := by simpa using hregisters.bulkheads
  have hdirectory : w.registry.bulkheads = f.world.registry.bulkheads :=
    hregisters.bulkheadDirectory
  -- The key leads to one number only.
  obtain rfl : i = j := by simpa [hdirectory, hfind] using hfound
  refine ⟨layers, w, i, b, hreaches, hregisters.now, hnumber, hfound, hname, hpolicy, ?_⟩
  exact hbalanced.inWorld (hbalanced.lends.of_bulkheads_eq (by rw [hbulkheads]))

/-- No report that came between two floors says that the bulkhead refused the call. -/
def NoneRefused (f g : Floor β (Except (Fault OperationError) γ)) : Prop :=
  ∃ more, g.completed = f.completed ++ more ∧ ∀ p ∈ more, Floor.turnedAway p.2 = false

/-- What a turn comes to: a call that is made is refused, without an attempt, if as many calls wait
as the policy allows, and is let in if fewer do. Nothing else brings a refusal. -/
def Answered (name : String) (policy : BulkheadPolicy)
    (f g : Floor β (Except (Fault OperationError) γ)) : Turn β γ → Prop
  | .start id _ =>
    f.jobs.length = policy.maxConcurrent.toNat ∧ g.jobs = f.jobs ∧
        g.completed = f.completed ++ [(id, refusal (bulkheadKey name) policy)] ∨
      f.jobs.length < policy.maxConcurrent.toNat ∧ NoneRefused f g
  | _ => NoneRefused f g

/-- A call that has found its bulkhead is answered. -/
theorem Finds.start {policy : BulkheadPolicy} {request : Request β γ} {layers : Layers} {w : World}
    {b : Bulkhead} (h : Finds name policy request f layers w i b) (hpermits : f.permits = [])
    (id : String) :
    Serving name policy (f.start id (call name request.options request.operation)) ∧
      Answered name policy f (f.start id (call name request.options request.operation))
        (.start id request) := by
  let x := (layered layers request.operation).bind fun result => .act .clock fun (now : Nat) =>
    .telling (report name (now - f.world.now) result) (.pure result)
  let g : Floor β (Except (Fault OperationError) γ) := { f with world := w }
  have hreaches : (call name request.options request.operation).Reaches ⟨f.world, .empty⟩ x
      ⟨w, .empty⟩ := .act ((h.reaches.bind _).bind _)
  have hlasts : (g.start id x).world.registry.bulkheads.find? (bulkheadKey name) = some i :=
    (World.lasting_find_bulkhead (bulkheadKey name) i).floorAdvance h.registered ..
  have hnone : (g.start id x).permits = [] := by
    rw [Floor.start, Floor.permits_advance]
    exact hpermits
  have hlength : f.jobs.length + f.permits.length = f.jobs.length := by
    rw [hpermits]
    rfl
  rw [hreaches.start_congr h.now]
  rcases layered_balanced h.balanced h.number request.plain name f.world.now id with
    ⟨hlt, hbalanced⟩ | ⟨hfull, w', hstart, hbalanced⟩
  -- A permit was left, and the call has it.
  · obtain ⟨more, hmore, hbrings⟩ := hbalanced.brings
    have hlt : f.jobs.length + f.permits.length < b.policy.maxConcurrent.toNat := hlt
    rw [hlength, h.policy_eq] at hlt
    refine ⟨⟨hnone, i, { b with totalAdmitted := b.totalAdmitted + 1 }, hlasts, h.name_eq,
      h.policy_eq, hbalanced.sinceNow⟩, ?_⟩
    exact .inr ⟨hlt, more, hmore, fun p hp => Floor.turnedAway_eq_false (hbrings p hp)⟩
  -- No permit was left, and the call is over.
  · have hfull : f.jobs.length + f.permits.length = b.policy.maxConcurrent.toNat := hfull
    rw [hlength, h.policy_eq] at hfull
    rw [hstart] at hlasts hnone ⊢
    rw [h.name_eq, h.policy_eq]
    refine ⟨⟨hnone, i, { b with totalRefused := b.totalRefused + 1 }, hlasts, h.name_eq,
      h.policy_eq, ?_⟩, .inl ⟨hfull, rfl, rfl⟩⟩
    exact ⟨hbalanced.lends, hbalanced.holds, hbalanced.holders, hbalanced.numbers, [], by simp,
      nofun⟩

/-! ## Turns -/

/-- What time, outcomes from outside and drops keep, they keep in a turn that makes no call. -/
private theorem kept_turn (name : String) {P : Floor β (Except (Fault OperationError) γ) → Prop}
    (hP : Floor.KeptExactly P)
    (hclock : ∀ f clock, P f → P { f with world := { f.world with clock } }) (h : P f)
    {t : Turn β γ} (ht : t.policy? = none) : P (f.step (t.step name)).2 := by
  cases t with
  | start => cases ht
  | feed id outcome => exact hP.feed h id outcome
  | drop id => exact hP.dropped h id
  | sleep d => exact hP.toKeptInTime.runUntil _ h
  | advance span =>
    simp only [Turn.step, Floor.step]
    split
    · exact hclock f _ h
    · exact h

/-- Without a call nothing begins. -/
private theorem kept_idle : Floor.KeptExactly (Idle (β := β) (γ := γ) name) where
  atTime _ _ h := ⟨h.permits, h.jobs, h.unmade⟩
  elapsed _ _ _ h hperm _ _ := absurd (h.jobs ▸ hperm).length_eq (by simp)
  opened _ _ _ h hperm _ _ _ := absurd (h.jobs ▸ hperm).length_eq (by simp)
  fed _ _ _ h := ⟨h.permits, by simp [h.jobs], h.unmade⟩
  drop _ _ _ _ h hperm := absurd (h.jobs ▸ hperm).length_eq (by simp)

/-- A turn that makes no call keeps what is known of the bulkhead, and refuses nobody. -/
theorem Serving.quiet {policy : BulkheadPolicy} (h : Serving name policy f) {t : Turn β γ}
    (ht : t.policy? = none) : Serving name policy (f.step (t.step name)).2 ∧
      NoneRefused f (f.step (t.step name)).2 := by
  obtain ⟨i, b, hfind, hname, hpolicy, hbalanced⟩ := h.shared
  -- The number under the key, the absence of permits held from outside and the balance are kept
  -- together, since the balance speaks of the number.
  have hkept : Floor.KeptExactly fun g : Floor β (Except (Fault OperationError) γ) =>
      (g.permits = [] ∧ g.world.registry.bulkheads.find? (bulkheadKey name) = some i) ∧
        Balanced i b LetIn f.completed 0 g :=
    ((Floor.kept_permits []).exactly.and
      (World.lasting_find_bulkhead (bulkheadKey name) i).kept.exactly).and Floor.kept_balanced
  obtain ⟨⟨hpermits, hfind'⟩, hbalanced'⟩ := kept_turn name hkept (fun g clock hg =>
    ⟨hg.1, hg.2.lends, hg.2.holds, hg.2.holders, hg.2.numbers, hg.2.brings⟩)
    ⟨⟨h.permits, hfind⟩, hbalanced⟩ ht
  obtain ⟨more, hmore, hbrings⟩ := hbalanced'.brings
  exact ⟨⟨hpermits, i, b, hfind', hname, hpolicy, hbalanced'.sinceNow⟩, more, hmore,
    fun p hp => Floor.turnedAway_eq_false (hbrings p hp)⟩

/-- A turn of calls that share a bulkhead. -/
theorem Serving.turn {policy : BulkheadPolicy} (h : Serving name policy f) (t : Turn β γ) :
    Serving name policy (f.step (t.step name)).2 ∧
      Answered name policy f (f.step (t.step name)).2 t := by
  cases t with
  | start id request =>
    obtain ⟨layers, w, i, b, hfinds⟩ := h.finds request
    exact hfinds.start h.permits id
  | feed | drop | sleep | advance => exact h.quiet rfl

/-- The turn of the first call. -/
theorem Idle.turn {policy : BulkheadPolicy} (h : Idle name f) {t : Turn β γ}
    (ht : t.policy? = some policy) : Serving name policy (f.step (t.step name)).2 ∧
      Answered name policy f (f.step (t.step name)).2 t := by
  cases t with
  | start id request =>
    obtain rfl : request.bulkhead = policy := Option.some.inj ht
    obtain ⟨layers, w, i, b, hfinds⟩ := h.finds request
    exact hfinds.start h.permits id
  | feed | drop | sleep | advance => cases ht

/-- What is known once the first call has brought its policy, or before. -/
def Stage (name : String) (f : Floor β (Except (Fault OperationError) γ)) :
    Option BulkheadPolicy → Prop
  | none => Idle name f
  | some policy => Serving name policy f

/-- The first turn that makes a call brings the policy; no later one changes it. -/
theorem Stage.turn {first : Option BulkheadPolicy} (h : Stage name f first) (t : Turn β γ) :
    Stage name (f.step (t.step name)).2 (first.or t.policy?) := by
  cases first with
  | some policy => exact (Serving.turn h t).1
  | none =>
    cases ht : t.policy? with
    | some policy => exact (Idle.turn h ht).1
    | none => exact kept_turn name kept_idle (fun _ _ h => ⟨h.permits, h.jobs, h.unmade⟩) h ht

/-- An interleaving of calls. -/
private theorem Stage.turns {first : Option BulkheadPolicy} (h : Stage name f first)
    (turns : List (Turn β γ)) :
    Stage name (f.run (turns.map (Turn.step name))) (first.or (turns.findSome? Turn.policy?)) := by
  -- Induction on the turns, of which the first one to bring a policy may still be to come.
  induction turns generalizing f first with
  | nil => simpa [Floor.run] using h
  | cons t turns ih =>
    have hrest := ih (h.turn t)
    have hfirst : (t :: turns).findSome? Turn.policy? =
        t.policy?.or (turns.findSome? Turn.policy?) := by
      cases ht : t.policy? <;> simp [ht]
    rw [hfirst, ← Option.or_assoc]
    exact hrest

/-! ## The cap -/

/-- The calls that wait hold permits of one bulkhead with a given policy. -/
def Capped (policy : BulkheadPolicy) (f : Floor β (Except (Fault OperationError) γ)) : Prop :=
  ∃ i b done, b.policy = policy ∧ Balanced i b LetIn done 0 f

/-- Calls that share a bulkhead are capped by its policy. -/
theorem Serving.capped {policy : BulkheadPolicy} (h : Serving name policy f) : Capped policy f := by
  obtain ⟨i, b, -, -, hpolicy, hbalanced⟩ := h.shared
  exact ⟨i, b, _, hpolicy, hbalanced⟩

/-- The cap stays as time passes. -/
private theorem kept_capped (policy : BulkheadPolicy) :
    Floor.KeptInTime (Capped (β := β) (γ := γ) policy) where
  atTime _ t := fun ⟨i, b, done, hpolicy, h⟩ =>
    ⟨i, b, done, hpolicy, Floor.kept_balanced.atTime _ t h⟩
  elapsed _ _ _ := fun ⟨i, b, done, hpolicy, h⟩ hperm _ _ =>
    ⟨i, b, done, hpolicy, h.wake hperm _⟩

/-- Each call that waits has a permit, so there are no more of them than permits. -/
theorem Capped.length_le {policy : BulkheadPolicy} (h : Capped policy f) :
    f.jobs.length ≤ policy.maxConcurrent.toNat := by
  obtain ⟨i, b, done, rfl, hbalanced⟩ := h
  have hle := hbalanced.lends.le
  omega

/-- Calls under one name that ask for a bulkhead, each with any layers whose policies are in order,
come to an orchestrator that has no bulkhead for the name yet. They are made, fed and dropped one by
one while time passes, in any interleaving. At every moment of the next turn no more calls wait, and
no more attempts are under way, than the policy of the first call allows. A call is refused if and
only if that many calls were made before and have not ended; between two moments a single call goes
on, which was among those that wait or is let in. -/
theorem concurrency_capped {w : World} (name : String)
    (hnew : w.registry.bulkheads.find? (bulkheadKey name) = none) {turns : List (Turn β γ)}
    {t : Turn β γ} {policy : BulkheadPolicy}
    (hfirst : (turns ++ [t]).findSome? Turn.policy? = some policy) :
    let f : Floor β (Except (Fault OperationError) γ) :=
      (Floor.ofWorld w).run (turns.map (Turn.step name))
    (∀ g ∈ f.moments (t.step name),
      g.running ≤ g.jobs.length ∧ g.jobs.length ≤ policy.maxConcurrent.toNat) ∧
    Answered name policy f (f.step (t.step name)).2 t := by
  intro f
  have hstage : Stage name f (turns.findSome? Turn.policy?) := by
    have hidle : Stage name (Floor.ofWorld w : Floor β (Except (Fault OperationError) γ)) none :=
      ⟨rfl, rfl, hnew⟩
    exact hidle.turns turns
  -- Either a call has brought the policy before, or this turn is the first call.
  have hturn : Serving name policy (f.step (t.step name)).2 ∧
      Answered name policy f (f.step (t.step name)).2 t ∧
      ∀ d, t.step name = .sleep d → Capped policy f := by
    cases hbefore : turns.findSome? Turn.policy? with
    | some p =>
      obtain rfl : p = policy := by simpa [List.findSome?_append, hbefore] using hfirst
      rw [hbefore] at hstage
      obtain ⟨hserving, hanswered⟩ := Serving.turn hstage t
      exact ⟨hserving, hanswered, fun _ _ => Serving.capped hstage⟩
    | none =>
      have ht : t.policy? = some policy := by
        rw [List.findSome?_append, hbefore, Option.none_or, List.findSome?_singleton] at hfirst
        exact hfirst
      rw [hbefore] at hstage
      obtain ⟨hserving, hanswered⟩ := Idle.turn hstage ht
      refine ⟨hserving, hanswered, fun d hd => ?_⟩
      cases t <;> cases hd
      cases ht
  obtain ⟨hserving, hanswered, hsleep⟩ := hturn
  -- An attempt that is under way belongs to a call that waits.
  refine ⟨fun g hg => ⟨List.countP_le_length, ?_⟩, hanswered⟩
  exact (Floor.forall_mem_moments (kept_capped policy) _ hsleep hserving.capped g hg).length_le

/-- A call waits in a bulkhead of one permit that it has made, and another call comes, which would
allow five. -/
theorem concurrency_capped_refused :
    let first : Turn Nat Nat := .start "first" (.bulkheadOnly ⟨1⟩ rfl (.repeating .gated))
    let second : Turn Nat Nat := .start "second" (.bulkheadOnly ⟨5⟩ rfl (.repeating .gated))
    let f : Floor Nat (Except (Fault OperationError) Nat) :=
      (Floor.ofWorld (.start true)).run ([first].map (Turn.step "api"))
    let g := (f.step (second.step "api")).2
    (World.start true).registry.bulkheads.find? "apiBulkhead" = none ∧
      ([first] ++ [second]).findSome? Turn.policy? = some ⟨1⟩ ∧
      g.jobs.length = 1 ∧ g.completed = [("second", refusal "apiBulkhead" ⟨1⟩)] := by
  intro first second f g
  have hnew : (World.start true).registry.bulkheads.find? (bulkheadKey "api") = none := rfl
  have hfirst : ([first] ++ [second]).findSome? Turn.policy? = some ⟨1⟩ := rfl
  have hanswered : Answered "api" ⟨1⟩ f g second := (concurrency_capped "api" hnew hfirst).2
  have hfull : f.jobs.length = (⟨1⟩ : BulkheadPolicy).maxConcurrent.toNat := by decide +kernel
  have hnone : f.completed = [] := by decide +kernel
  rcases hanswered with ⟨-, hjobs, hcompleted⟩ | ⟨hlt, -⟩
  · rw [hnone] at hcompleted
    exact ⟨hnew, hfirst, (congrArg List.length hjobs).trans hfull, hcompleted⟩
  · exact absurd hfull (Nat.ne_of_lt hlt)

end Orchestrator

end Safeguard
