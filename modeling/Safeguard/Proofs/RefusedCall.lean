import Safeguard.Proofs.CutShortCall

/-!
# Calls that a layer refuses

The layers of a call are asked from the outside in, and none of them before the one around it has
let the call in. A bulkhead that refuses a call has counted it, and its breaker has not been asked;
a breaker that refuses a call has counted it, and the permit that the call held meanwhile is given
back. In both cases the call is over before anything of it runs. A call that both have let in never
returns such a refusal, so whoever sees one knows all that the call did.

## Key results

- `broken_asked`, `layered_asked`: what the layers of a call answer
- `call_asked`: what the whole call comes to, with its report
- `Floor.Returns.of_ensures`: what a call returns that was followed up to some point
- `rejection_contained`: what a call leaves behind that returns a refusal
-/

namespace Safeguard

variable {β γ : Type}

/-! ## Results of calls -/

namespace Floor

variable {ρ : Type} {f : Floor β ρ}

/-- The call `x`, made on the floor `f`, returns `result`: in the foreground, or in the background
under a name of its own, after whatever is done until then. -/
def Returns (f : Floor β ρ) (x : Activity β ρ) (result : ρ) : Prop :=
  (f.call x).1.ending = some (.returned result) ∨
    ∃ id after report, f.Unused id ∧ (∀ u ∈ after, ∀ y, u ≠ .step (.start id y)) ∧
      (id, report) ∈ ((f.start id x).uses after).completed ∧
      report.ending = some (.returned result)

/-- A call that was followed before its first wait returns what the rest of it ensures. -/
theorem Returns.of_ensures {x y : Activity β ρ} {s : Scene} {R : Progress β → ρ → Prop}
    {result : ρ} (h : f.Returns x result) (hreaches : x.Reaches ⟨f.world, .empty⟩ y s)
    (hrecord : s.record = .empty) (hy : y.Ensures R ⟨0, []⟩) : ∃ q, R q result := by
  rcases h with hforeground | ⟨id, after, report, hunused, hafter, hreport, hresult⟩
  · have heq : foreground x .empty f = foreground y s.record { f with world := s.world } :=
      hreaches.foreground_eq f
    have hending : (foreground y s.record { f with world := s.world }).1 =
        some (.returned result) := by
      rw [← heq]
      exact hforeground
    have hbegan : s.record.starts.size = 0 := by
      rw [hrecord]
      rfl
    exact ⟨_, hy.foreground hbegan _ hending⟩
  · obtain ⟨used, -, hR⟩ := shows_of_ensures hunused hreaches hrecord hy hafter hreport _ hresult
    exact ⟨_, hR⟩

/-- A call that is over at once ends in the foreground as in the background. -/
private theorem call_of_reaches {x : Activity β ρ} {ending : Ending ρ} {w' : World}
    (hreaches : x.Reaches ⟨f.world, .empty⟩ (.ended ending) ⟨w', .empty⟩)
    (hnow : w'.now = f.world.now) :
    f.call x = (Record.empty.report f.world.now f.world.now (some ending),
      ({ f with world := w' } : Floor β ρ).runUntil f.world.now) := by
  have hforeground : foreground x .empty f = (some ending, .empty, { f with world := w' }) :=
    hreaches.foreground_eq f
  simp only [call, hforeground]
  rw [hnow]

end Floor

/-- A bulkhead without permits counts the call that it refuses, and no more. -/
private theorem Bulkhead.acquire_of_full {c : Bulkhead} (h : c.admits = false) :
    c.acquire = { c with totalRefused := c.totalRefused + 1 } := by
  simp [acquire, h]

/-- A permit that was taken and given back leaves the count of the calls that were let in. -/
private theorem Bulkhead.release_acquire {c : Bulkhead} (h : c.admits = true) :
    c.acquire.release = { c with totalAdmitted := c.totalAdmitted + 1 } := by
  simp [acquire, h, release]

/-- No time passes while an activity goes on by effects alone. -/
private theorem Activity.Reaches.same_time {α : Type} {x y : Activity β α} {s s' : Scene}
    (h : x.Reaches s y s') : s'.world.now = s.world.now ∧ s'.world.clock = s.world.clock := by
  induction h with
  | refl => exact ⟨rfl, rfl⟩
  | act _ ih =>
    exact ⟨ih.1.trans (Scene.now_perform _ _), ih.2.trans (World.clock_perform _ _)⟩

namespace Orchestrator

variable {name : String} {options : Options} {script : Script β} {w : World} {s t : Scene}

/-! ## What the layers answer -/

variable (name options script) in
/-- What a call returns that was let in. -/
def FromWithin (q : Progress β) (result : Except (Fault OperationError) β) : Prop :=
  0 < q.made ∧ Outcomes name options script q result

/-- A call that was let in returns no refusal. -/
private theorem FromWithin.not_isRejection {q : Progress β} {fault : Fault OperationError}
    (h : FromWithin name options script q (.error fault)) : fault.isRejection = false := by
  have hexplained := (Meaning.letIn (w := .start true) h.1 h.2).explained
  by_contra hrejected
  have hzero := hexplained.isRejection fault rfl (by simpa using hrejected)
  have hpos := h.1
  omega

/-- A call that fails at once gives the permit back that it has got. -/
private theorem reaches_held {x : Activity β (Except (Fault OperationError) γ)}
    {fault : Fault OperationError} {s s' : Scene} {j : Nat} (hanswer : (s.world.enter j).1 = .ok ())
    (hx : x.Reaches { s with world := (s.world.enter j).2 }
      (.ended (.returned (.error fault))) s') :
    (flattened (underBulkhead j x)).Reaches s (.ended (.returned (.error fault)))
      { s' with world := s'.world.leave j } := by
  have hasked : (underBulkhead j x).Reaches s _ { s with world := (s.world.enter j).2 } :=
    .answered hanswer (.refl _ _)
  have hheld : (underBulkhead j x).Reaches s
      (.act (.leave j) fun _ => .ended (.returned (.error (.operation fault)))) s' :=
    hasked.trans ((hx.bind _).holding j)
  exact (hheld.bind _).trans (.act (.refl _ _))

/-- The breaker of a call refuses it, or lets it in. -/
theorem broken_asked (script : Script β) (hvalid : options.Valid) {found : Option Nat}
    {b : Option Breaker} {bulkheads : List Bulkhead}
    (hlocated : Located Breaker.name (breakerKey name)
      (s.world.registry.breakers.find? (breakerKey name)) s.world.breakers b found)
    (h : s.Onward s.world.breakers bulkheads [] [] t) (hclock : t.world.clock = s.world.clock) :
    let x := layered ⟨none, found, options.timeout.map (⟨timeoutKey name, ·⟩),
      options.retry.map fun p => (retryKey name, p.unwrapping)⟩ script.operation
    (∃ a s', b = some a ∧ a.admits s.world.clock.now = false ∧
      x.Reaches t (.ended (.returned (.error (.circuitOpen (breakerKey name))))) s' ∧
      s'.record = t.record ∧
      s.Onward (replaced s.world.breakers found (some (a.acquire s.world.clock.now))) bulkheads
        [] [] s') ∨
    Begins (FromWithin name options script) x t := by
  have hinner : (inner name options script.operation).Ensures
      (FromWithin name options script) ⟨0, []⟩ :=
    ensures_retried name hvalid (ensures_attempt _ script options.timeout) rfl
  -- Without a breaker nobody refuses the call.
  cases hlocated with
  | absent => exact .inr (.of_ensures hinner t)
  | @found a i _ hb hname =>
    obtain ⟨hanswer, hasked⟩ := onward_acquire hb h hclock
    cases hadmits : a.admits s.world.clock.now with
    | true =>
      rw [hadmits] at hanswer
      exact .inr (.broken hanswer hinner)
    | false =>
      rw [hadmits, hname] at hanswer
      rw [signals_refused hadmits] at hasked
      have hreaches : (underBreaker i (inner name options script.operation)).Reaches t
          (.pure (.error (.circuitOpen (breakerKey name)))) _ :=
        .answered hanswer (.telling [Breaker.refusal] _ _)
      exact .inl ⟨a, _, rfl, hadmits, hreaches.bind _, rfl, hasked.log rfl⟩

variable (name options script) in
/-- How a call has gone on that asked its bulkhead `c` and then its breaker `b`: refused by the one
or the other, or let in by both. -/
inductive Asked (layers : Layers) (b : Option Breaker) (c : Option Bulkhead) (s : Scene)
    (x : Activity β (Except (Fault OperationError) β)) : Prop
  | bulkheadFull {a : Bulkhead} {s' : Scene} (hasked : c = some a) (hfull : a.admits = false)
      (hreaches : x.Reaches s (.ended (.returned
        (.error (.bulkheadFull (bulkheadKey name) a.policy.maxConcurrent)))) s')
      (hrecord : s'.record = s.record)
      (h : s.Onward s.world.breakers (replaced s.world.bulkheads layers.bulkhead (some a.acquire))
        [.bulkheadRejection (bulkheadKey name)] [] s')
  | circuitOpen {a : Breaker} {s' : Scene} (hasked : b = some a)
      (hrefuses : a.admits s.world.clock.now = false) (hthrough : c.all (·.admits) = true)
      (hreaches : x.Reaches s
        (.ended (.returned (.error (.circuitOpen (breakerKey name))))) s')
      (hrecord : s'.record = s.record)
      (h : s.Onward
        (replaced s.world.breakers layers.breaker (some (a.acquire s.world.clock.now)))
        (replaced s.world.bulkheads layers.bulkhead (c.map (·.acquire.release))) [] [] s')
  | letIn (h : Begins (FromWithin name options script) x s)

/-- A call asks its bulkhead first, and its breaker only if the bulkhead has let it in. -/
theorem layered_asked {layers : Layers} (hequipped : Equipped name options w layers s)
    (script : Script β) :
    Asked name options script layers (breakerFor name options w) (bulkheadFor name options w) s
      (layered layers script.operation) := by
  obtain ⟨hvalid, hbreaker, hbulkhead, hdeadline, hretry, -, -, -⟩ := hequipped
  obtain ⟨bulkhead, breaker, deadline, retry⟩ := layers
  obtain rfl : deadline = _ := hdeadline
  obtain rfl : retry = _ := hretry
  dsimp only at hbreaker hbulkhead
  generalize bulkheadFor name options w = c at hbulkhead ⊢
  -- Without a bulkhead the breaker is asked at once.
  cases hbulkhead with
  | absent =>
    rcases broken_asked script hvalid hbreaker (Scene.Along.refl s) rfl with
      ⟨a, s', ha, hrefuses, hreaches, hrecord, h⟩ | hbegins
    · exact .circuitOpen ha hrefuses rfl hreaches hrecord h
    · exact .letIn hbegins
  | @found c j _ hc hname =>
    obtain ⟨hanswer, hentered⟩ := onward_enter hc
    cases hadmits : c.admits with
    | false =>
      rw [hadmits, hname] at hanswer
      have htold : Notice.signals c.acquireNotices = [.bulkheadRejection (bulkheadKey name)] := by
        simp [Bulkhead.acquireNotices, hadmits, Notice.signals, Notice.log, hname]
      rw [htold] at hentered
      exact .bulkheadFull rfl hadmits
        (Activity.Reaches.bind _ (.answered hanswer (.refl _ _))) rfl hentered
    | true =>
      rw [hadmits] at hanswer
      have htold : Notice.signals c.acquireNotices = [] := by
        simp [Bulkhead.acquireNotices, hadmits, Notice.signals]
      rw [htold] at hentered
      have hlt := (List.getElem?_eq_some_iff.1 hc).1
      rcases broken_asked script hvalid hbreaker hentered
        (World.SameBreakers.enter s.world j).clock with
        ⟨a, s', ha, hrefuses, hreaches, hrecord, h⟩ | hbegins
      · -- The breaker has refused the call, which gives its permit back.
        have hback := onward_leave h (List.getElem?_set_self hlt)
        rw [List.set_set] at hback
        exact .circuitOpen ha hrefuses hadmits (reaches_held hanswer hreaches) hrecord hback
      · exact .letIn (.held hanswer hbegins)

/-! ## The whole call -/

/-- A call whose instances are there already makes none. -/
theorem Equipped.along {layers : Layers} {b : Breaker} {c : Bulkhead}
    (h : Equipped name options w layers s) (hb : w.breaker? (breakerKey name) = some b)
    (hc : w.bulkhead? (bulkheadKey name) = some c) : (⟨w, .empty⟩ : Scene).Along [] [] s := by
  obtain ⟨i, hi, -⟩ := Option.bind_eq_some_iff.1 hb
  obtain ⟨j, hj, -⟩ := Option.bind_eq_some_iff.1 hc
  -- Both keys have an instance, so the lookups make nothing.
  have hbreaker : w.madeBreaker name options.breaker = none := by simp [World.madeBreaker, hi]
  have hbulkhead : w.madeBulkhead name options.bulkhead = none := by
    simp [World.madeBulkhead, hj]
  have hregisters := h.registers
  rw [hbreaker, hbulkhead] at hregisters
  exact ⟨by simpa using hregisters.breakers, by simpa using hregisters.bulkheads,
    (hregisters.registry_eq_iff (by simp) (by simp)).2 ⟨rfl, rfl⟩, hregisters.listening,
    Nat.le_of_eq hregisters.now.symm, by simpa using h.signals, by simp [h.record]⟩

/-- The report on a call that a layer refused: no attempt was made and no time has passed. -/
def refusedReport (fault : Fault OperationError) : Report (Except (Fault OperationError) γ) :=
  ⟨some (.returned (.error fault)), [], 0, some 0⟩

/-- All that the call `x` does that was made on the floor `f` is to be refused with a fault, in the
foreground as in the background, and to tell the signals `told`. It leaves the world `w'`, in which
no time has passed and every key stands for what it stood for. -/
structure Refused (f : Floor β (Except (Fault OperationError) β))
    (x : Activity β (Except (Fault OperationError) β)) (fault : Fault OperationError)
    (told : List Signal) (w' : World) : Prop where
  reaches : x.Reaches ⟨f.world, .empty⟩ (.ended (.returned (.error fault))) ⟨w', .empty⟩
  start : ∀ id, f.start id x =
    ({ f with world := w' } : Floor _ _).complete id (refusedReport fault)
  call : f.call x =
    (refusedReport fault, ({ f with world := w' } : Floor _ _).runUntil f.world.now)
  now : w'.now = f.world.now
  clock : w'.clock = f.world.clock
  registry : w'.registry = f.world.registry
  signals : Notice.signals w'.notices =
    Notice.signals f.world.notices ++ if f.world.listening then told else []

variable {f : Floor β (Except (Fault OperationError) β)} {b : Breaker} {c : Bulkhead}

/-- A call whose layers refuse it tells no more than they do, and its report. -/
private theorem refused_of_reaches {breakers : List Breaker} {bulkheads : List Bulkhead}
    {told : List Signal} {fault : Fault OperationError} {s' : Scene}
    (hcall : (call name options script.operation).Reaches ⟨f.world, .empty⟩
      (.ended (.returned (.error fault)))
      { s' with world := s'.world.tell (report name (s'.world.now - f.world.now)
        (.error fault : Except _ β)) })
    (hrecord : s'.record = .empty)
    (h : (⟨f.world, .empty⟩ : Scene).Onward breakers bulkheads told [] s') :
    ∃ w', Refused f (call name options script.operation) fault
        (told ++ reportTold name 0 (.error fault : Except _ β)) w' ∧
      w'.breakers = breakers ∧ w'.bulkheads = bulkheads := by
  obtain ⟨w', record⟩ := s'
  obtain rfl : record = .empty := hrecord
  have htime := hcall.same_time
  have hnow : w'.now = f.world.now := htime.1
  have htold := h.tell (report name (w'.now - f.world.now) (.error fault : Except _ β))
  rw [signals_report, hnow, Nat.sub_self] at htold
  -- Nothing was recorded and no time has passed, so the report is that of the refusal.
  have hreport : Record.empty.report f.world.now f.world.now (some (.returned (.error fault))) =
      (refusedReport fault : Report (Except (Fault OperationError) β)) := by
    simp [refusedReport, Record.report, Record.empty, Ending.returned?]
  refine ⟨w'.tell (report name (w'.now - f.world.now) (.error fault : Except _ β)),
    ⟨hcall, fun id => ?_, ?_, hnow, htime.2, h.registry, ?_⟩, h.breakers, h.bulkheads⟩
  · rw [hcall.start_eq, ← hreport]
    exact congrArg (Floor.complete _ id) (congrArg (Record.report _ _ · _) hnow)
  · rw [← hreport]
    exact Floor.call_of_reaches hcall hnow
  · rw [hnow, Nat.sub_self]
    exact htold.signals

namespace Refused

variable {x : Activity β (Except (Fault OperationError) β)} {fault : Fault OperationError}
  {told : List Signal} {w' : World}

/-- A call that is refused returns nothing but the refusal. -/
private theorem eq_of_returns (h : Refused f x fault told w')
    {result : Except (Fault OperationError) β} (hresult : f.Returns x result) :
    result = .error fault := by
  obtain ⟨-, heq⟩ := hresult.of_ensures (R := fun _ result => result = .error fault) h.reaches rfl
    (.returned rfl)
  exact heq

/-- A call that is refused tells no retry unless its layers do. -/
private theorem retryAttempts_eq (h : Refused f x fault told w') {n : String}
    (htold : Signal.retryAttempts n told = []) :
    Signal.retryAttempts n (Notice.signals w'.notices) =
      Signal.retryAttempts n (Notice.signals f.world.notices) := by
  rw [h.signals]
  unfold Signal.retryAttempts at htold ⊢
  cases f.world.listening <;> simp [htold]

end Refused

/-- A call that asks for a breaker gets the one that is there. -/
private theorem breakerFor_of_stored (hb : w.breaker? (breakerKey name) = some b) :
    breakerFor name options w = options.breaker.map fun _ => b := by
  simp [breakerFor, hb]

/-- A call that asks for a bulkhead gets the one that is there. -/
private theorem bulkheadFor_of_stored (hc : w.bulkhead? (bulkheadKey name) = some c) :
    bulkheadFor name options w = options.bulkhead.map fun _ => c := by
  simp [bulkheadFor, hc]

/-- An instance that is there already has become another one, if the call asks for it. -/
private theorem Located.stored_replaced {π α : Type} {called : α → String} {key : String}
    {number : Option Nat} {l : List α} {a : α} {asked : Option π} {found : Option Nat}
    (h : Located called key number l (asked.map fun _ => a) found)
    (ha : number.bind (l[·]?) = some a) (g : α → α) :
    number.bind ((replaced l found ((asked.map fun _ => a).map g))[·]?) =
      some (if asked.isSome then g a else a) := by
  cases asked with
  | none =>
    cases h
    exact ha
  | some p => exact h.find_replaced g (g a) rfl

/-- The permits in use are the same if the bulkhead that has become another one has as many in use
as before. -/
private theorem inFlight_eq_of_replaced {key : String} {number found : Option Nat}
    {a : Option Bulkhead} {w' : World} (h : Located Bulkhead.name key number w.bulkheads a found)
    {g : Bulkhead → Bulkhead} (hg : ∀ c' ∈ a, (g c').inFlight = c'.inFlight)
    (hregistry : w'.registry = w.registry)
    (hbulkheads : w'.bulkheads = replaced w.bulkheads found (a.map g)) (k : String) :
    w'.inFlight k = w.inFlight k := by
  unfold World.inFlight World.bulkhead?
  rw [hregistry, hbulkheads]
  cases w.registry.bulkheads.find? k with
  | none => rfl
  | some i => exact congrArg (·.getD 0) (inFlight_replaced h hg i)

/-- What a call comes to whose breaker `b` and bulkhead `c` are there already. -/
theorem call_asked (hnamed : f.world.Named) (hvalid : options.Valid)
    (hb : f.world.breaker? (breakerKey name) = some b)
    (hc : f.world.bulkhead? (bulkheadKey name) = some c) (script : Script β) :
    let x := call name options script.operation
    (∃ w', Refused f x (.bulkheadFull (bulkheadKey name) c.policy.maxConcurrent)
        (.bulkheadRejection (bulkheadKey name) :: reportTold name 0 (.error
          (.bulkheadFull (bulkheadKey name) c.policy.maxConcurrent) : Except _ β)) w' ∧
      w'.breakers = f.world.breakers ∧
      w'.bulkhead? (bulkheadKey name) = some { c with totalRefused := c.totalRefused + 1 } ∧
      ∀ key, w'.inFlight key = f.world.inFlight key) ∨
    (∃ w', Refused f x (.circuitOpen (breakerKey name))
        (reportTold name 0 (.error (.circuitOpen (breakerKey name)) : Except _ β)) w' ∧
      w'.breaker? (breakerKey name) = some { b with refused := b.refused + 1 } ∧
      w'.bulkhead? (bulkheadKey name) = some { c with
        totalAdmitted := c.totalAdmitted + if options.bulkhead.isSome then 1 else 0 } ∧
      ∀ key, w'.inFlight key = f.world.inFlight key) ∨
    Begins (FromWithin name options script) x ⟨f.world, .empty⟩ := by
  intro x
  obtain ⟨answer, s, hresolve, hrecord, hnow, -, -, hcase⟩ :=
    resolve_equips (β := β) name options hnamed
  rcases hcase with ⟨e, -, hinvalid⟩ | ⟨layers, rfl, hequipped⟩
  · exact absurd hvalid hinvalid
  have halong := hequipped.along hb hc
  -- What the layers do is followed from the beginning of the call, and its report is told.
  have hwhole {fault : Fault OperationError} {s' : Scene}
      (h : (layered layers script.operation).Reaches s (.ended (.returned (.error fault))) s') :
      x.Reaches ⟨f.world, .empty⟩ (.ended (.returned (.error fault))) _ :=
    .act (reaches_reported name f.world.now ((hresolve.bind _).trans h))
  have hregistry : s.world.registry = f.world.registry := halong.registry
  have hbulkhead := hequipped.bulkhead
  rw [hregistry, show s.world.bulkheads = f.world.bulkheads from halong.bulkheads] at hbulkhead
  have hbreaker := hequipped.breaker
  rw [hregistry, show s.world.breakers = f.world.breakers from halong.breakers] at hbreaker
  -- The three ways of `layered_asked`: let in, turned away by the bulkhead, refused by the breaker.
  cases layered_asked hequipped script with
  | letIn h => exact .inr (.inr (.reported name (.of_reaches (hresolve.bind _) hrecord h)))
  | @bulkheadFull a s' hasked hfull hreaches hrecord' h =>
    rw [bulkheadFor_of_stored hc] at hasked hbulkhead
    obtain ⟨p, hp, rfl⟩ := Option.map_eq_some_iff.1 hasked
    obtain ⟨w', hrefused, hbreakers, hbulkheads⟩ :=
      refused_of_reaches (hwhole hreaches) (hrecord'.trans hrecord) (halong.trans h)
    rw [show s.world.bulkheads = f.world.bulkheads from halong.bulkheads] at hbulkheads
    have hstored := hbulkhead.stored_replaced hc (·.acquire)
    rw [hp] at hstored hbulkhead
    refine .inl ⟨w', hrefused, hbreakers.trans halong.breakers, ?_, ?_⟩
    · rw [World.bulkhead?, hrefused.registry, hbulkheads, ← Bulkhead.acquire_of_full hfull]
      exact hstored
    · refine inFlight_eq_of_replaced hbulkhead (g := (·.acquire)) (fun c' hc' => ?_)
        hrefused.registry hbulkheads
      obtain rfl : c = c' := Option.some.inj hc'
      rw [Bulkhead.acquire_of_full hfull]
      rfl
  | @circuitOpen a s' hasked hrefuses hthrough hreaches hrecord' h =>
    rw [bulkheadFor_of_stored hc] at hthrough hbulkhead h
    rw [breakerFor_of_stored hb] at hasked hbreaker
    obtain ⟨p, hp, rfl⟩ := Option.map_eq_some_iff.1 hasked
    obtain ⟨w', hrefused, hbreakers, hbulkheads⟩ :=
      refused_of_reaches (hwhole hreaches) (hrecord'.trans hrecord) (halong.trans h)
    rw [show s.world.bulkheads = f.world.bulkheads from halong.bulkheads] at hbulkheads
    rw [show s.world.breakers = f.world.breakers from halong.breakers] at hbreakers
    have hstored := hbreaker.stored_replaced hb (·.acquire s.world.clock.now)
    rw [hp] at hstored
    refine .inr (.inl ⟨w', hrefused, ?_, ?_, ?_⟩)
    · rw [World.breaker?, hrefused.registry, hbreakers, ← Breaker.acquire_of_refuses hrefuses]
      exact hstored
    · rw [World.bulkhead?, hrefused.registry, hbulkheads]
      refine (hbulkhead.stored_replaced hc (·.acquire.release)).trans (congrArg some ?_)
      cases hasked : options.bulkhead with
      | none => simp
      | some q =>
        rw [hasked] at hthrough
        exact Bulkhead.release_acquire hthrough
    · refine inFlight_eq_of_replaced hbulkhead (g := (·.acquire.release)) (fun c' hc' => ?_)
        hrefused.registry hbulkheads
      rw [hc'] at hthrough
      exact Bulkhead.inFlight_release_acquire hthrough

/-- A refusal leaves the inner layers alone. The orchestrator may have been used in any way before,
and there are a breaker and a bulkhead under the keys of the call's name. A call that returns that
its bulkhead is full leaves every breaker as it was and adds one to the calls that the bulkhead has
refused. A call that returns that its circuit is open adds one to the calls that the breaker has
refused and has given the permit back that it held. In both cases it was over when it was made: the
operation did not run, no retry was told, no time has passed, and under every key as many permits
are in use as before. -/
theorem rejection_contained (listening : Bool)
    (before : List (Floor.Use β (Except (Fault OperationError) β))) (name : String)
    (hvalid : options.Valid) (script : Script β) :
    let f := (Floor.ofWorld (.start listening)).uses before
    let x := call name options script.operation
    f.world.breaker? (breakerKey name) = some b →
    f.world.bulkhead? (bulkheadKey name) = some c →
    (∀ key limit, f.Returns x (.error (.bulkheadFull key limit)) → ∃ w',
      Refused f x (.bulkheadFull key limit) (.bulkheadRejection (bulkheadKey name) ::
        reportTold name 0 (.error (.bulkheadFull key limit) : Except _ β)) w' ∧
      (∀ n, Signal.retryAttempts n (Notice.signals w'.notices) =
        Signal.retryAttempts n (Notice.signals f.world.notices)) ∧
      w'.breakers = f.world.breakers ∧ w'.breaker? (breakerKey name) = some b ∧
      w'.bulkhead? (bulkheadKey name) = some { c with totalRefused := c.totalRefused + 1 } ∧
      ∀ k, w'.inFlight k = f.world.inFlight k) ∧
    ∀ key, f.Returns x (.error (.circuitOpen key)) → ∃ w',
      Refused f x (.circuitOpen key)
        (reportTold name 0 (.error (.circuitOpen key) : Except _ β)) w' ∧
      (∀ n, Signal.retryAttempts n (Notice.signals w'.notices) =
        Signal.retryAttempts n (Notice.signals f.world.notices)) ∧
      w'.breaker? (breakerKey name) = some { b with refused := b.refused + 1 } ∧
      w'.bulkhead? (bulkheadKey name) = some { c with
        totalAdmitted := c.totalAdmitted + if options.bulkhead.isSome then 1 else 0 } ∧
      ∀ k, w'.inFlight k = f.world.inFlight k := by
  intro f x hb hc
  have hnamed : f.world.Named := Floor.named_of_start listening before
  -- Of the two refusals a call returns at most the one that it met.
  rcases call_asked hnamed hvalid hb hc script with
    ⟨w', hrefused, hbreakers, hstored, hpermits⟩ | ⟨w', hrefused, hstored, hstored', hpermits⟩ |
    hbegins
  · refine ⟨fun key limit hreturns => ?_, fun key hreturns => ?_⟩
    · obtain ⟨rfl, rfl⟩ :=
        Fault.bulkheadFull.inj (Except.error.inj (hrefused.eq_of_returns hreturns))
      refine ⟨w', hrefused, fun n => hrefused.retryAttempts_eq rfl, hbreakers, ?_, hstored,
        hpermits⟩
      rw [World.breaker?, hrefused.registry, hbreakers]
      exact hb
    · cases hrefused.eq_of_returns hreturns
  · refine ⟨fun key limit hreturns => ?_, fun key hreturns => ?_⟩
    · cases hrefused.eq_of_returns hreturns
    · obtain rfl := Fault.circuitOpen.inj (Except.error.inj (hrefused.eq_of_returns hreturns))
      exact ⟨w', hrefused, fun n => hrefused.retryAttempts_eq rfl, hstored, hstored', hpermits⟩
  · -- A call that was let in returns no refusal, whatever happens to it.
    obtain ⟨y, s, hreaches, hrecord, hensures⟩ := hbegins
    have never {fault : Fault OperationError} (hreturns : f.Returns x (.error fault)) :
        fault.isRejection = false := by
      obtain ⟨q, hq⟩ := hreturns.of_ensures hreaches hrecord hensures
      exact hq.not_isRejection
    exact ⟨fun key limit hreturns => absurd (never hreturns) (by simp [Fault.isRejection]),
      fun key hreturns => absurd (never hreturns) (by simp [Fault.isRejection])⟩

/-- A call waits with the only permit while the breaker opens and cools down. The next one is turned
away, and the breaker stays open, although it would have let the call in. -/
theorem rejection_contained_cooled :
    let options := { Options.none with
      breaker := some ⟨1, .ofSeconds 10, 1⟩
      bulkhead := some ⟨1⟩ }
    let script : Script Nat := .repeating .gated
    let before : List (Floor.Use Nat (Except (Fault OperationError) Nat)) :=
      [.step (.start "first" (call "api" options script.operation)), .outside (.settle 0 false),
        .step (.advance (.ofSeconds 10))]
    let f := (Floor.ofWorld (.start true)).uses before
    let x := call "api" options script.operation
    let b : Breaker := ⟨"apiCircuitBreaker", ⟨1, .ofSeconds 10, 1⟩, .opened, 1, 0, some .zero, 1, 0⟩
    let c : Bulkhead := ⟨"apiBulkhead", ⟨1⟩, 0, 1, 0⟩
    options.Valid ∧ f.world.breaker? "apiCircuitBreaker" = some b ∧
      b.admits f.world.clock.now = true ∧ f.world.bulkhead? "apiBulkhead" = some c ∧
      f.Returns x (.error (.bulkheadFull "apiBulkhead" 1)) ∧
      ∃ w' : World, (f.call x).1 = refusedReport (.bulkheadFull "apiBulkhead" 1) ∧
        w'.breaker? "apiCircuitBreaker" = some b ∧
        w'.bulkhead? "apiBulkhead" = some { c with totalRefused := 1 } := by
  intro options script before f x b c
  have hvalid : options.Valid := by
    refine ⟨nofun, ?_, ?_, nofun⟩ <;> intro p hp <;> obtain rfl := Option.some.inj hp <;> rfl
  have hb : f.world.breaker? "apiCircuitBreaker" = some b := by decide +kernel
  have hc : f.world.bulkhead? "apiBulkhead" = some c := by decide +kernel
  have hreturns : f.Returns x (.error (.bulkheadFull "apiBulkhead" 1)) :=
    .inl (by decide +kernel)
  obtain ⟨w', hrefused, -, -, hbreaker, hbulkhead, -⟩ :=
    (rejection_contained true before "api" hvalid script hb hc).1 _ _ hreturns
  exact ⟨hvalid, hb, by decide +kernel, hc, hreturns, w', congrArg Prod.fst hrefused.call, hbreaker,
    hbulkhead⟩

end Orchestrator

end Safeguard
