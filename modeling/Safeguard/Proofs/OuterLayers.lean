import Safeguard.Proofs.BackgroundCourse
import Safeguard.Proofs.OrchestratedResult

/-!
# Calls that their bulkhead and breaker let in

The bulkhead and the breaker of a call decide whether its attempts are made. If they let the call
in, they have no more part in it: they keep their own books when it ends, and every fault that they
wrap on the way is unwrapped again. So the call comes to the same as one that asks for neither of
them (`call_comes`), and nobody can tell the two apart but by the outer layers themselves.

## Key results

- `broken_comes`, `held_comes`: a call that is let in by its breaker, or by its bulkhead
- `call_comes`: a call that is let in comes to what goes on inside
- `let_in_unchanged`: calls with and without outer layers
-/

namespace Safeguard

namespace World

/-- A breaker that admits a call says so. -/
private theorem acquire_of_admits {w : World} {i : Nat}
    (h : ∀ b, w.breakers[i]? = some b → b.admits w.clock.now = true) :
    (w.acquire i).1 = .ok () := by
  unfold acquire
  cases hb : w.breakers[i]? with
  | none => rfl
  | some b => simp [h b hb]

/-- A breaker that a call finds was there before, or is new. -/
private theorem Registers.stored_or_fresh {name : String} {asked : Option BreakerPolicy}
    {made : Option BulkheadPolicy} {w w' : World}
    (h : Registers name made (w.madeBreaker name asked) w w') {i : Nat} {b : Breaker}
    (hi : w'.registry.breakers.find? (breakerKey name) = some i) (hb : w'.breakers[i]? = some b) :
    w.breaker? (breakerKey name) = some b ∨ ∃ p, b = .fresh (breakerKey name) p := by
  cases hmade : w.madeBreaker name asked with
  | none =>
    rw [hmade] at h
    -- Nothing was made, so the breakers and their directory are those from before.
    have hsame : w'.breakers = w.breakers := by simpa using h.breakers
    have hfind : w'.registry.breakers.find? (breakerKey name) =
        w.registry.breakers.find? (breakerKey name) := h.find_breaker
    refine .inl ?_
    rw [breaker?, ← hfind, hi, ← hb, ← hsame]
    rfl
  | some p =>
    -- What was made is new, and the key leads to it.
    have hfresh := h.breaker?_eq hmade
    rw [breaker?, hi] at hfresh
    exact .inr ⟨p, Option.some.inj (hb.symm.trans hfresh)⟩

end World

namespace Orchestrator

open Activity (Meets Agrees ComesTo ReachesUnseen)

variable {β γ : Type} {name : String} {options : Options} {seen : Signal → Bool}

/-! ## Finding the layers -/

/-- What goes on with an instance does no more than finding it and what follows. -/
private theorem meets_bindOk {E : Effect → Prop} {ε α : Type} {x : Activity β (Except ε α)}
    {k : α → Activity β (Except ε γ)} (hx : x.Meets E fun _ => True)
    (hk : ∀ a, (k a).Meets E fun _ => True) : (x.bindOk k).Meets E fun _ => True :=
  hx.bind fun result _ =>
    match result with
    | .ok a => hk a
    | .error _ => .returned trivial

/-- A layer that the call does not ask for is not looked for. -/
private theorem meets_findFor {E : Effect → Prop} {π α : Type}
    {find : π → Activity β (Except PolicyError α)} (hfind : ∀ p, (find p).Meets E fun _ => True)
    (asked : Option π) : (findFor find asked).Meets E fun _ => True := by
  cases asked with
  | none => exact .returned trivial
  | some p => exact (hfind p).map fun _ _ => trivial

/-- A call that looks for its layers only looks instances up. -/
theorem meets_resolve {E : Effect → Prop} (hbulkhead : ∀ key p, E (.findBulkhead key p))
    (hbreaker : ∀ key p, E (.findBreaker key p)) (name : String) (options : Options) :
    (resolve name options : Activity β _).Meets E fun _ => True :=
  meets_bindOk (meets_findFor (fun _ => .act (hbulkhead _ _) fun _ => .returned trivial) _) fun _ =>
    meets_bindOk (meets_findFor (fun _ => .act (hbreaker _ _) fun _ => .returned trivial) _)
      fun _ =>
      meets_bindOk (meets_findFor (fun _ => .returned trivial) _) fun _ =>
        meets_bindOk (meets_findFor (fun _ => .returned trivial) _) fun _ => .returned trivial

/-! ## Calls that are let in -/

/-- Whether a call has no breaker, or is admitted by it. -/
def admitted (name : String) (options : Options) (w : World) : Bool :=
  options.breaker.isNone || (w.breaker? (breakerKey name)).all (·.admits w.clock.now)

/-- What goes on inside the breaker of a call: its attempts, with their deadline and the retries. -/
def inner (name : String) (options : Options) (operation : Activity β (Except OperationError γ)) :
    Activity β (Except (Fault OperationError) γ) :=
  layered ⟨none, none, options.timeout.map (⟨timeoutKey name, ·⟩),
    options.retry.map fun p => (retryKey name, p.unwrapping)⟩ operation

/-- The end of a call that was made at time `began`. -/
def reported (name : String) (began : Nat) (x : Activity β (Except (Fault OperationError) γ)) :
    Activity β (Except (Fault OperationError) γ) :=
  x.bind fun result => .act .clock fun (now : Nat) =>
    .telling (report name (now - began) result) (.pure result)

/-- The inside of a call leaves the breakers and the bulkheads alone. -/
private theorem meets_inner {operation : Activity β (Except OperationError γ)}
    (hop : operation.Meets Effect.Plain fun _ => True) :
    (inner name options operation).Meets Effect.Plain Unrefused :=
  meets_retried (fun _ => trivial) _ (meets_attempt trivial (fun _ => trivial) _ hop)

variable {x y : Activity β (Except (Fault OperationError) γ)} {s : Scene}

/-- A call that is admitted by its breaker comes to the same as without it. -/
theorem broken_comes (i : Nat) (hx : ∀ n, x.Agrees seen (fun _ => Eq) n y)
    (hadmits : ∀ b, s.world.breakers[i]? = some b → b.admits s.world.clock.now = true) :
    (flattened (underBreaker i x)).ComesTo seen s y := by
  have hanswer : (s.perform (.acquire i)).1 = .ok () := World.acquire_of_admits hadmits
  have hreaches : (underBreaker i x).ReachesUnseen seen s _ _ :=
    .answered trivial hanswer (.refl _ _)
  refine .of_reaches (hreaches.bind _) (.of_agrees (Agrees.bind_left
    (R := fun _ wrapped result => wrapped.mapError Fault.flatten = result) ?_
    fun _ _ _ h => .returned h))
  -- The outcome is recorded, and its fault is wrapped once, to be unwrapped again.
  refine (hx _).bind_left fun n result result' heq => ?_
  subst heq
  cases result with
  | ok v => exact .left trivial fun _ => .returned rfl
  | error e => exact .left trivial fun _ => .left trivial fun _ => .returned rfl

/-- A call that gets a permit of its bulkhead comes to the same as without it. -/
theorem held_comes (i : Nat) (hlets : s.world.lets i = true)
    (hx : ∀ s' : Scene, s.world.SameBreakers s'.world → x.ComesTo seen s' y) :
    (flattened (underBulkhead i x)).ComesTo seen s y := by
  have hanswer : (s.perform (.enter i)).1 = .ok () := by
    rcases s.world.enter_eq i with ⟨-, hanswer⟩ | ⟨hfull, -⟩
    · exact hanswer
    · simp [hlets] at hfull
  have hreaches : (underBulkhead i x).ReachesUnseen seen s _ _ :=
    .answered trivial hanswer (.refl _ _)
  obtain ⟨z, s', hz, hagrees⟩ := hx (s.perform (.enter i)).2 (.enter s.world i)
  refine .of_reaches (hreaches.bind _) ⟨_, s', ((hz.bind _).holding i).bind _, ?_⟩
  -- A fault is wrapped while the permit is held, to be unwrapped again.
  have hwrapped : (z.map fun result => result.mapError .operation).Agrees seen
      (fun _ wrapped result => wrapped.mapError Fault.flatten = result) _ y :=
    hagrees.map_left fun _ result result' heq => by
      subst heq
      cases result <;> rfl
  exact (hwrapped.holding_left i).bind_left fun _ _ _ h => .returned h

/-- A call that found its layers and is let in by them comes to what goes on inside. -/
private theorem layered_comes {operation : Activity β (Except OperationError γ)}
    (hop : operation.Meets Effect.Plain fun _ => True) {layers : Layers}
    (hresolved : Resolved name options s.world (.ok layers))
    (hlets : ∀ i ∈ layers.bulkhead, s.world.lets i = true)
    (hadmits : ∀ i ∈ layers.breaker, ∀ b, s.world.breakers[i]? = some b →
      b.admits s.world.clock.now = true) :
    (layered layers operation).ComesTo seen s (inner name options operation) := by
  obtain ⟨bulkhead, breaker, deadline, retry⟩ := layers
  cases hresolved with
  | found hvalid hbulkhead hbreaker hdeadline hretry =>
  obtain rfl : deadline = _ := hdeadline
  obtain rfl : retry = _ := hretry
  have hinner (n : Nat) : (inner name options operation).Agrees seen (fun _ => Eq) n
      (inner name options operation) := .refl (meets_inner hop) n
  -- The bulkhead leaves the breakers alone.
  have hbroken : ∀ s' : Scene, s.world.SameBreakers s'.world →
      (layered ⟨none, breaker, options.timeout.map (⟨timeoutKey name, ·⟩),
        options.retry.map fun p => (retryKey name, p.unwrapping)⟩ operation).ComesTo seen s'
          (inner name options operation) := by
    intro s' hsame
    cases breaker with
    | none => exact .of_agrees (hinner _)
    | some i =>
      refine broken_comes i hinner fun b hb => ?_
      rw [hsame.clock]
      exact hadmits i rfl b (hsame.breakers ▸ hb)
  -- From the outside in: the bulkhead, if there is one, and the breaker behind it.
  cases bulkhead with
  | none => exact hbroken s (.refl _)
  | some i => exact held_comes i (hlets i rfl) hbroken

/-- The bulkhead that a call finds lets it through if the one that was there before the call
does. -/
private theorem lets_of_letThrough {w w' : World} {made : Option BreakerPolicy}
    (hregisters : World.Registers name (w.madeBulkhead name options.bulkhead) made w w')
    (hvalid : options.Valid) (hthrough : letThrough name options w = true) {found : Option Nat}
    (hfound : Stands options.bulkhead (w'.registry.bulkheads.find? (bulkheadKey name)) found) :
    ∀ i ∈ found, w'.lets i = true := by
  intro i hi
  cases hfound with
  | absent => cases hi
  | @found p j hasked hfind =>
    obtain rfl : j = i := Option.some.inj hi
    -- A number without an instance behind it refuses nobody.
    cases hb : w'.bulkheads[j]? with
    | none => simp [World.lets, hb]
    | some b =>
      have hadmits : b.admits = true := by
        -- A bulkhead that is full was there before, since a new one has all its permits.
        by_contra hfull
        have hstored := stored_of_refuses hregisters hvalid.bulkhead hfind hb (by simpa using hfull)
        simp [letThrough, hasked, hstored, hfull] at hthrough
      simp [World.lets, hb, hadmits]

/-- The breaker that a call finds admits it if the one that was there before the call does. -/
private theorem admits_of_admitted {w w' : World} {made : Option BulkheadPolicy}
    (hregisters : World.Registers name made (w.madeBreaker name options.breaker) w w')
    (hadmitted : admitted name options w = true) {found : Option Nat}
    (hfound : Stands options.breaker (w'.registry.breakers.find? (breakerKey name)) found) :
    ∀ i ∈ found, ∀ b, w'.breakers[i]? = some b → b.admits w'.clock.now = true := by
  intro i hi b hb
  cases hfound with
  | absent => cases hi
  | @found p j hasked hfind =>
    obtain rfl : j = i := Option.some.inj hi
    rw [hregisters.clock]
    -- A breaker that was there has admitted the call by assumption, and a new one is closed.
    rcases hregisters.stored_or_fresh hfind hb with hstored | ⟨p, rfl⟩
    · simpa [admitted, hasked, hstored] using hadmitted
    · rfl

/-- A call that is let in by its bulkhead and its breaker comes to what goes on inside, and is
reported. -/
theorem call_comes {operation : Activity β (Except OperationError γ)}
    (hop : operation.Meets Effect.Plain fun _ => True) (hvalid : options.Valid)
    (hthrough : letThrough name options s.world = true)
    (hadmitted : admitted name options s.world = true) :
    (call name options operation).ComesTo seen s
      (reported name s.world.now (inner name options operation)) := by
  obtain ⟨answer, s', hreaches, -, hregisters, hresolved⟩ :=
    resolve_resolves (β := β) name options s
  have hunseen : (resolve name options).ReachesUnseen seen s (.pure answer) s' :=
    .of_reaches hreaches (meets_resolve (fun _ _ => trivial) (fun _ _ => trivial) name options)
  have hmade : breakerMade name options s.world = s.world.madeBreaker name options.breaker := by
    simp [breakerMade, faultOf_eq_none_iff.2 hvalid.bulkhead]
  rw [hmade] at hregisters
  have hfound := hresolved
  cases hfound with
  | refused hfault => simp [Options.fault?_eq_none_iff.2 hvalid] at hfault
  | @found layers _ hbulkhead hbreaker _ _ =>
  have hlayered : (layered layers operation).ComesTo seen s' (inner name options operation) :=
    layered_comes hop hresolved (lets_of_letThrough hregisters hvalid hthrough hbulkhead)
      (admits_of_admitted hregisters hadmitted hbreaker)
  refine .of_reaches (.act trivial (.refl _ _)) (.bind ?_ (.of_reaches (hunseen.bind _) hlayered))
  -- The report at the end is the same for both.
  intro n result
  exact .act trivial (by simp) fun _ => .telling _ (.returned rfl)

/-- A call that is let in by its bulkhead and its breaker goes on as it would without them, on a
floor where anything may be under way. In the foreground it ends in the same way, makes the same
attempts at the same times and tells the same of them; in the background it is reported alike,
whatever is done after it was made. -/
theorem let_in_unchanged (name : String) (hvalid : options.Valid) (script : Script β)
    {f : Floor β (Except (Fault OperationError) β)}
    (hthrough : letThrough name options f.world = true)
    (hadmitted : admitted name options f.world = true) :
    let x := call name options script.operation
    let y := call name { options with bulkhead := none, breaker := none } script.operation
    (f.call x).1 = (f.call y).1 ∧
      sights (f.trace x .empty) = sights (f.trace y .empty) ∧
      ∀ id, f.Unused id → ∀ history : List (Floor.Step β _),
        (∀ s ∈ history, ∀ z, s ≠ .start id z) → ∀ report,
          (id, report) ∈ ((f.start id x).run history).completed ↔
            (id, report) ∈ ((f.start id y).run history).completed := by
  intro x y
  have hop := script.meets_operation
  have hrest : { options with bulkhead := none, breaker := none }.Valid :=
    ⟨hvalid.retry, nofun, nofun, hvalid.timeout⟩
  -- Both come to what goes on inside, which does not depend on the outer layers.
  have hx : x.ComesTo (fun _ => true) ⟨f.world, .empty⟩ _ :=
    call_comes hop hvalid hthrough hadmitted
  have hy : y.ComesTo (fun _ => true) ⟨f.world, .empty⟩ _ := call_comes hop hrest rfl rfl
  have hcourse : f.course (fun _ => true) x .empty = f.course (fun _ => true) y .empty :=
    (hx.course_eq rfl).trans (hy.course_eq rfl).symm
  refine ⟨?_, ?_, fun id hunused history hhistory report =>
    Floor.mem_completed_iff_of_comesTo hx hy hunused hhistory report⟩
  · rw [Floor.call_report (fun _ => true) x, Floor.call_report (fun _ => true) y, hcourse]
  · rw [← glimpses_all, ← glimpses_all]
    exact congrArg Course.sights hcourse

/-- The breaker has counted a failure before, and the call fails once more before it succeeds. -/
theorem let_in_unchanged_failed :
    let options : Options :=
      ⟨some .standard, some .standard, some .standard, some ⟨.ofMillis 3, .advisory⟩⟩
    let script : Script Nat := ⟨.timed (.ofMillis 5) (.error ⟨"down"⟩), [.timed .zero (.value 1)]⟩
    let down : Script Nat := .repeating (.timed .zero (.error ⟨"down"⟩))
    let f := (Floor.ofWorld (.start true)).uses [.call (call "api" options down.operation)]
    let x := call "api" options script.operation
    let y := call "api" { options with bulkhead := none, breaker := none } script.operation
    options.Valid ∧ letThrough "api" options f.world = true ∧
      admitted "api" options f.world = true ∧
      (f.world.breaker? "apiCircuitBreaker").map (·.failures) = some 1 ∧
      (f.call x).1 = (f.call y).1 ∧ (f.call y).1.starts = [0, 105] := by
  intro options script down f x y
  have hvalid : options.Valid := by
    refine ⟨?_, ?_, ?_, ?_⟩ <;> intro p hp <;> obtain rfl := Option.some.inj hp <;> decide +kernel
  have hthrough : letThrough "api" options f.world = true := by decide +kernel
  have hadmitted : admitted "api" options f.world = true := by decide +kernel
  exact ⟨hvalid, hthrough, hadmitted, by decide +kernel,
    (let_in_unchanged "api" hvalid script hthrough hadmitted).1, by decide +kernel⟩

end Orchestrator

end Safeguard
