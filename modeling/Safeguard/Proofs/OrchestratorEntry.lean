import Safeguard.Proofs.InstanceLookup

/-!
# How a call enters its layers

A call under a name finds its instances, then asks its bulkhead for a permit and its breaker for
admission, and nothing else has a turn meanwhile. This file follows it so far. A call that is turned
away by either of them ends at once; one that is admitted owes its breaker a record.

## Key results

- `resolve_reaches`: the instances of a call whose policies are in order
- `meets_attempt`, `meets_retried`: what goes on inside the breaker
- `call_enters`: the three ways in which a call can begin
-/

namespace Safeguard

/-- Every policy is in order. -/
structure Options.Valid (o : Options) : Prop where
  retry : ∀ p ∈ o.retry, p.validate = .ok ()
  breaker : ∀ p ∈ o.breaker, p.validate = .ok ()
  bulkhead : ∀ p ∈ o.bulkhead, p.validate = .ok ()
  timeout : ∀ p ∈ o.timeout, p.validate = .ok ()

/-- A breaker alone is in order if its policy is. -/
theorem Options.valid_breaker {policy : BreakerPolicy} (h : policy.validate = .ok ()) :
    { Options.none with breaker := some policy }.Valid :=
  ⟨nofun, fun _ hp => Option.some.inj hp ▸ h, nofun, nofun⟩

namespace Orchestrator

open Activity (Meets Owes Closes)

variable {β γ : Type} {name : String} {options : Options}

/-! ## Finding the instances -/

/-- Whether a call has no bulkhead, or finds a permit left. -/
def letThrough (name : String) (options : Options) (w : World) : Bool :=
  options.bulkhead.isNone || (w.bulkhead? (bulkheadKey name)).all (·.admits)

/-- The bulkhead of a call is found, and it has a permit left if the call is let through. -/
private theorem findFor_bulkhead_reaches (name : String) (hvalid : options.Valid) (s : Scene) :
    ∃ found w', (findFor (fun p => .perform (.findBulkhead (bulkheadKey name) p)) options.bulkhead :
        Activity β _).Reaches s (.pure (.ok found)) { s with world := w' } ∧
      s.world.SameBreakers w' ∧ found.all w'.lets = letThrough name options s.world := by
  cases hbulkhead : options.bulkhead with
  | none => exact ⟨none, s.world, .refl _ _, .refl _, by simp [letThrough, hbulkhead]⟩
  | some p =>
    obtain ⟨j, hfound, hlets⟩ := World.findBulkhead_lets s.world (bulkheadKey name)
      (hvalid.bulkhead p hbulkhead)
    refine ⟨some j, (s.world.findBulkhead (bulkheadKey name) p).2, ?_, .findBulkhead _ _ _, ?_⟩
    · exact .answered hfound (.refl _ _)
    · simp [letThrough, hbulkhead, hlets]

/-- The breaker of a call is found. -/
private theorem findFor_breaker_reaches {policy : BreakerPolicy} {key : String} {i : Nat}
    {b : Breaker} {s : Scene} (hvalid : policy.validate = .ok ())
    (he : s.world.Expects key policy i b) :
    ∃ w', (findFor (fun p => .perform (.findBreaker key p)) (some policy) :
        Activity β _).Reaches s (.pure (.ok (some i))) { s with world := w' } ∧
      w'.Tracks key i b ∧ w'.clock = s.world.clock ∧ w'.bulkheads = s.world.bulkheads := by
  obtain ⟨hfound, hrest⟩ := World.findBreaker_expects hvalid he
  exact ⟨_, .answered hfound (.refl _ _), hrest⟩

/-- A computation that gets an instance goes on with it. -/
theorem reaches_bindOk {α ε : Type} {x : Activity β (Except ε α)} {a : α} {s s' : Scene}
    {k : α → Activity β (Except ε γ)} (h : x.Reaches s (.pure (.ok a)) s') :
    (x.bindOk k).Reaches s (k a) s' :=
  h.bind _

/-- Policies that are only checked are found in order. -/
private theorem findFor_pure_reaches {π α : Type} (find : π → Except PolicyError α) {o : Option π}
    (hfind : ∀ p ∈ o, ∃ a, find p = .ok a) (s : Scene) :
    ∃ found, (findFor (fun p => .pure (find p)) o : Activity β _).Reaches s
      (.pure (.ok found)) s := by
  cases o with
  | none => exact ⟨none, .refl _ _⟩
  | some p =>
    obtain ⟨a, ha⟩ := hfind p rfl
    refine ⟨some a, ?_⟩
    show ((Activity.pure (find p) : Activity β _).map _).Reaches _ _ _
    rw [ha]
    exact .refl _ _

/-- A call whose policies are in order gets its instances. -/
theorem resolve_reaches {policy : BreakerPolicy} {i : Nat} {b : Breaker} {s : Scene}
    (hvalid : options.Valid) (hbreaker : options.breaker = some policy)
    (he : s.world.Expects (breakerKey name) policy i b) :
    ∃ layers w', (resolve name options : Activity β _).Reaches s (.pure (.ok layers))
        { s with world := w' } ∧ layers.breaker = some i ∧ w'.Tracks (breakerKey name) i b ∧
      w'.clock = s.world.clock ∧
      layers.bulkhead.all w'.lets = letThrough name options s.world := by
  -- The bulkhead and the breaker are found in the world, the other two are only checked.
  obtain ⟨bulkhead, w, hbulkhead, hsame, hlets⟩ :=
    findFor_bulkhead_reaches (β := β) name hvalid s
  obtain ⟨w', hfound, ht, hclock, hbulkheads⟩ := findFor_breaker_reaches (β := β)
    (s := { s with world := w }) (hvalid.breaker policy hbreaker) (he.of_sameBreakers hsame)
  have htimeout : ∀ p ∈ options.timeout, ∃ d, Deadline.make (timeoutKey name) p = .ok d := by
    intro p hp
    exact ⟨⟨timeoutKey name, p⟩, by simp only [Deadline.make, hvalid.timeout p hp]; rfl⟩
  have hpolicy : ∀ p ∈ options.retry,
      ∃ r, (p.validate.map fun _ => (retryKey name, p.unwrapping)) = .ok r := by
    intro p hp
    exact ⟨(retryKey name, p.unwrapping), by simp only [hvalid.retry p hp]; rfl⟩
  obtain ⟨deadline, hdeadline⟩ := findFor_pure_reaches (β := β) _ htimeout { s with world := w' }
  obtain ⟨retry, hretry⟩ := findFor_pure_reaches (β := β) _ hpolicy { s with world := w' }
  refine ⟨⟨bulkhead, some i, deadline, retry⟩, w', ?_, rfl, ht, hclock.trans hsame.clock, ?_⟩
  · unfold resolve
    rw [hbreaker]
    exact (reaches_bindOk hbulkhead).trans ((reaches_bindOk hfound).trans
      ((reaches_bindOk hdeadline).trans (reaches_bindOk hretry)))
  · -- Finding the breaker leaves the bulkheads as they were found.
    have hsame' : w'.lets = w.lets := by
      funext j
      simp only [World.lets, hbulkheads]
    rw [← hlets, hsame']

/-! ## Inside the breaker -/

/-- The result is not the refusal of a breaker or a bulkhead. -/
def Unrefused {ε : Type} (result : Except (Fault ε) γ) : Prop :=
  ∀ r : Rejection, result ≠ .error r.fault

/-- An attempt does no more than its operation, apart from log lines, and is not refused. -/
theorem meets_attempt {E : Effect → Prop} (hclock : E .clock) (htell : ∀ notice, E (.tell notice))
    (deadline : Option Deadline) {operation : Activity β (Except OperationError γ)}
    (hop : operation.Meets E fun _ => True) : (attempt deadline operation).Meets E Unrefused := by
  -- An error of the operation is never taken for a refusal.
  have kept : ∀ result : Except OperationError γ,
      Unrefused (result.mapError (Fault.operation (ε := OperationError))) := by
    intro result r
    cases result <;> cases r <;> simp [Rejection.fault]
  cases deadline with
  | none => exact hop.map fun result _ => kept result
  | some d =>
    have limited : Unrefused (.error (.timedOut d.policy.limit) :
        Except (Fault OperationError) γ) := by
      intro r
      cases r <;> simp [Rejection.fault]
    exact d.meets_guard hclock htell hop limited fun result _ => kept result

/-- Retries do no more than their attempts, apart from log lines, and are not refused. -/
theorem meets_retried {E : Effect → Prop} (htell : ∀ notice, E (.tell notice))
    (retry : Option (String × RetryPolicy)) {attempted : Activity β _}
    (h : attempted.Meets E (Unrefused (γ := γ) (ε := OperationError))) :
    (match retry with
      | some (name, policy) => flattened (Retry.run name policy attempted)
      | none => attempted).Meets E Unrefused := by
  cases retry with
  | none => exact h
  | some p =>
    -- The faults of the attempts stand one level below those of the retries.
    have hrun : (Retry.run p.1 p.2 attempted).Meets E fun result =>
        Unrefused (result.mapError Fault.flatten) := by
      refine Retry.meets_run p.1 p.2 htell h ?_ ?_ ?_ ?_
      · intro v _ r
        simp
      · intro e he r heq
        exact he r (by simpa [Fault.flatten] using heq)
      · intro attempts e _ r
        cases r <;> simp [Fault.flatten, Rejection.fault]
      · intro message r
        cases r <;> simp [Fault.flatten, Rejection.fault]
    exact hrun.map fun _ => id

/-! ## Entering -/

/-- How a call has begun that found the breaker `b` under number `i` at the time `now`; `through`
says whether its bulkhead let it through. -/
inductive Entered (key : String) (i : Nat) (b : Breaker) (now : Duration) (through : Bool) :
    Activity β (Except (Fault OperationError) γ) → World → Prop where
  /-- The bulkhead has turned the call away, and the breaker does not know of it. -/
  | turnedAway {w : World} (hthrough : through = false) (ht : w.Tracks key i b) (name : String)
      (limit : UInt64) : Entered key i b now through
        (.ended (.returned (.error (.bulkheadFull name limit)))) w
  /-- The breaker has refused the call. -/
  | refused {w : World} (hthrough : through = true) (hrefuses : b.admits now = false)
      (ht : w.Tracks key i (b.acquire now)) : Entered key i b now through
        (.ended (.returned (.error (.circuitOpen b.name)))) w
  /-- The breaker has admitted the call, which owes a record. -/
  | admitted {w : World} {x : Activity β (Except (Fault OperationError) γ)}
      (hthrough : through = true) (hadmits : b.admits now = true)
      (ht : w.Tracks key i (b.acquire now)) (howes : x.Owes i Unrefused) :
      Entered key i b now through x w

variable {key : String} {i : Nat} {b : Breaker} {through : Bool}

/-- The call in the scene `s` begins in one of the three ways. -/
def Enters (key : String) (i : Nat) (b : Breaker) (through : Bool)
    (x : Activity β (Except (Fault OperationError) γ)) (s : Scene) : Prop :=
  ∃ y s', x.Reaches s y s' ∧ s'.world.clock = s.world.clock ∧
    Entered key i b s.world.clock.now through y s'.world

/-- A layer around a call lets it begin in the same way, if it goes on with the call, hands refusals
on at once and leaves what the call owes. -/
private theorem Enters.through_layer {x : Activity β (Except (Fault OperationError) γ)} {s : Scene}
    (layer : Activity β (Except (Fault OperationError) γ) →
      Activity β (Except (Fault OperationError) γ))
    (hreaches : ∀ {x s y s'}, x.Reaches s y s' → (layer x).Reaches s (layer y) s')
    (hrefusal : ∀ (r : Rejection) s, ∃ s', (layer (.ended (.returned (.error r.fault)))).Reaches s
      (.ended (.returned (.error r.fault))) s' ∧ s.world.SameBreakers s'.world)
    (howes : ∀ {i x}, x.Owes i Unrefused → (layer x).Owes i Unrefused)
    (h : Enters key i b through x s) : Enters key i b through (layer x) s := by
  obtain ⟨y, s', hxy, hclock, hentered⟩ := h
  -- Only the call that was admitted goes on in the layer. Of the other two the layer sees the
  -- refusal.
  cases hentered with
  | turnedAway hthrough ht name limit =>
    obtain ⟨s'', hy, hsame⟩ := hrefusal (.bulkheadFull name limit) s'
    exact ⟨_, s'', (hreaches hxy).trans hy, hsame.clock.trans hclock,
      .turnedAway hthrough (ht.of_sameBreakers hsame) name limit⟩
  | refused hthrough hrefuses ht =>
    obtain ⟨s'', hy, hsame⟩ := hrefusal (.circuitOpen b.name) s'
    exact ⟨_, s'', (hreaches hxy).trans hy, hsame.clock.trans hclock,
      .refused hthrough hrefuses (ht.of_sameBreakers hsame)⟩
  | admitted hthrough hadmits ht hy =>
    exact ⟨_, s', hreaches hxy, hclock, .admitted hthrough hadmits ht (howes hy)⟩

/-- A call begins as what is left of it does once it has come so far without time passing. -/
theorem Enters.of_reaches {x y : Activity β (Except (Fault OperationError) γ)} {s s' : Scene}
    (hxy : x.Reaches s y s') (hclock : s'.world.clock = s.world.clock)
    (h : Enters key i b through y s') : Enters key i b through x s := by
  obtain ⟨z, s'', hyz, hclock', hentered⟩ := h
  exact ⟨z, s'', hxy.trans hyz, hclock'.trans hclock, hclock ▸ hentered⟩

/-- A call asks its breaker, which refuses or admits it. -/
private theorem broken_enters {x : Activity β (Except (Fault OperationError) γ)} {s : Scene}
    (ht : s.world.Tracks key i b) (hx : x.Meets Effect.Quiet Unrefused) :
    Enters key i b true (flattened (underBreaker i x)) s := by
  obtain ⟨hanswer, ht', hclock⟩ := ht.acquire
  cases hadmits : b.admits s.world.clock.now with
  | false =>
    -- A log line, and the refusal is the result.
    rw [hadmits] at hanswer
    have htold := Activity.Reaches.telling [Breaker.refusal]
      (.pure (.error (.circuitOpen b.name)) : Activity β (Except (Fault (Fault OperationError)) γ))
      { s with world := (s.world.acquire i).2 }
    have hreaches : (underBreaker i x).Reaches s _ _ := .answered hanswer htold
    exact ⟨_, _, hreaches.bind _, hclock, .refused rfl hadmits (ht'.of_sameBreakers (.tell _ _))⟩
  | true =>
    rw [hadmits] at hanswer
    have hreaches : (underBreaker i x).Reaches s _ _ := .answered hanswer (.refl _ _)
    refine ⟨_, _, hreaches.bind _, hclock, .admitted rfl hadmits ht' ?_⟩
    -- What is left is the operation, then the record, then one level of faults is taken away.
    refine Owes.bind (R := fun result => Unrefused (result.mapError Fault.flatten))
      (Owes.of_meets hx fun result hresult => ?_) fun result hresult => .returned ⟨?_, hresult⟩
    · cases result with
      | ok v => exact .settle (.returned ⟨rfl, hresult⟩)
      | error e => exact .settle (.telling _ (.returned ⟨rfl, hresult⟩))
    · cases result <;> rfl

/-- A call that holds a permit begins as it would without the bulkhead. -/
private theorem holding_enters {x : Activity β (Except (Fault OperationError) γ)} {s : Scene}
    (j : Nat) (h : Enters key i b through x s) : Enters key i b through
      (flattened ((x.map fun result => result.mapError .operation).holding j)) s := by
  -- Holding a permit is a layer: it goes on with the call, hands refusals on and leaves what is
  -- owed.
  refine h.through_layer (fun x =>
    flattened ((x.map fun result => result.mapError .operation).holding j)) ?_ ?_ ?_
  · intro x s y s' hxy
    exact ((hxy.bind _).holding j).bind _
  · intro r s
    cases r <;> exact ⟨_, .act (.refl _ _), .leave _ _⟩
  · intro i x hx
    refine Owes.bind (R := fun result => Unrefused (result.mapError Fault.flatten))
      (Owes.holding j (hx.bind fun result hresult => .returned ⟨?_, ?_⟩)) ?_
    · cases result <;> rfl
    · cases result <;> exact hresult
    · intro result hresult
      refine .returned ⟨?_, hresult⟩
      cases result <;> rfl

/-- A call asks its bulkhead, which turns it away or lets it through. -/
private theorem underBulkhead_enters {x : Activity β (Except (Fault OperationError) γ)} {s : Scene}
    (j : Nat) (ht : s.world.Tracks key i b)
    (hx : ∀ s : Scene, s.world.Tracks key i b → Enters key i b true x s) :
    Enters key i b (s.world.lets j) (flattened (underBulkhead j x)) s := by
  have hsame := World.SameBreakers.enter s.world j
  have ht' := ht.of_sameBreakers hsame
  -- Asking the bulkhead leaves the breaker alone, whatever the answer is.
  rcases World.enter_eq s.world j with ⟨hlets, hanswer⟩ | ⟨hlets, c, -, -, hanswer⟩
  · have hreaches : (underBulkhead j x).Reaches s _ _ := .answered hanswer (.refl _ _)
    rw [hlets]
    exact (holding_enters j (hx _ ht')).of_reaches (hreaches.bind _) hsame.clock
  · have hreaches : (underBulkhead j x).Reaches s _ _ := .answered hanswer (.refl _ _)
    rw [hlets]
    exact ⟨_, _, hreaches.bind _, hsame.clock, .turnedAway rfl ht' c.name c.policy.maxConcurrent⟩

/-- A call under its layers is turned away by its bulkhead, or goes on to its breaker. -/
private theorem layered_enters {layers : Layers} {operation : Activity β (Except OperationError γ)}
    {s : Scene} (hbreaker : layers.breaker = some i) (ht : s.world.Tracks key i b)
    (hop : operation.Meets Effect.Plain fun _ => True) :
    Enters key i b (layers.bulkhead.all s.world.lets) (layered layers operation) s := by
  have hquiet := hop.mono (fun _ => Effect.Plain.quiet) fun _ => id
  have htell : ∀ notice, Effect.Quiet (.tell notice) := fun _ => trivial
  have hretried := meets_retried htell layers.retry
    (meets_attempt trivial htell layers.deadline hquiet)
  unfold layered
  rw [hbreaker]
  -- Without a bulkhead the call is let through, and its breaker is the first to be asked.
  cases layers.bulkhead with
  | none => exact broken_enters ht hretried
  | some j => exact underBulkhead_enters j ht fun s hs => broken_enters hs hretried

/-- A call whose policies are in order is turned away, refused or admitted. -/
theorem call_enters {policy : BreakerPolicy} {operation : Activity β (Except OperationError γ)}
    {w : World} (hvalid : options.Valid) (hbreaker : options.breaker = some policy)
    (he : w.Expects (breakerKey name) policy i b)
    (hop : operation.Meets Effect.Plain fun _ => True) (record : Record) :
    Enters (breakerKey name) i b (letThrough name options w) (call name options operation)
      ⟨w, record⟩ := by
  obtain ⟨layers, w', hresolved, hlayers, ht, hclock, hlets⟩ :=
    resolve_reaches (β := β) (s := ⟨w, record⟩) hvalid hbreaker he
  have hentered := layered_enters (s := ⟨w', record⟩) hlayers ht hop
  rw [hlets] at hentered
  -- The report at the end is one more layer.
  have hcalled := hentered.through_layer (fun x => x.bind fun result =>
    .act .clock fun (now : Nat) =>
      .telling (report name (now - w.now) result) (.pure result)) ?_ ?_ ?_
  · exact hcalled.of_reaches (.act ((hresolved.bind _).bind _)) hclock
  · intro x s y s' hxy
    exact hxy.bind _
  · intro r s
    exact ⟨_, .act (.telling _ _ _), .tell _ _⟩
  · intro i x hx
    exact hx.bind fun result hresult => .act trivial fun _ =>
      .telling _ (.returned ⟨rfl, hresult⟩)

end Orchestrator

end Safeguard
