import Safeguard.Proofs.LayerStory

/-!
# The signals of a call

`Story` lists what a call tells while no other call goes on: nothing if it is refused, but for the
bulkhead that turns it away; otherwise that its breaker probes, the number of each further attempt
and the length of each one that overran an advisory deadline, and that its breaker has opened or
closed. In all cases its length and its outcome are told at the end (`reportTold`).

## Key results

- `alone_call`: a call, from its first effect to its report
- `tells_story`: the signals of a call that returns
-/

namespace Safeguard

namespace Orchestrator

open Activity (Alone)

variable {β γ : Type} {name : String} {options : Options} {w w' : World} {s s' : Scene}

/-! ## The call and its report -/

/-- What a call tells before its report that returned with a value or not: it began in the world `w`
and left it as `w'`, and it made attempts at the times `starts` and took `elapsed` milliseconds. -/
inductive Story (name : String) (options : Options) (w w' : World) (ok : Bool) (starts : List Nat)
    (elapsed : Nat) : List Signal → Prop
  /-- A policy is not in order. -/
  | invalid (h : ¬ options.Valid) : Story name options w w' ok starts elapsed []
  /-- The bulkhead has no permit left. -/
  | turnedAway (hvalid : options.Valid) (hfull : letThrough name options w = false) :
      Story name options w w' ok starts elapsed [.bulkheadRejection (bulkheadKey name)]
  /-- The bulkhead lets the call through, and the breaker refuses it. -/
  | refused (hvalid : options.Valid) (hthrough : letThrough name options w = true)
      (hrefused : admitted name options w = false) : Story name options w w' ok starts elapsed []
  /-- The call is let in, and the breaker is left with the outcome of its attempts. -/
  | letIn (hvalid : options.Valid) (hthrough : letThrough name options w = true)
      (hadmitted : admitted name options w = true) {lengths : List Nat}
      (hpaced : Paced (delayAfter options) 0 0 lengths starts elapsed)
      (hcount : lengths.length < 2 ^ 32) {entered left : Option Breaker} {t : Duration}
      (hentered : entered = (breakerFor name options w).map (·.acquire w.clock.now))
      (hsettled : left = entered.map (·.settle t ok))
      (hleft : ∀ b ∈ left, w'.breaker? (breakerKey name) = some b) :
      Story name options w w' ok starts elapsed
        (probeTold name (breakerFor name options w) ++
          attemptsTold name options.timeout 0 (lengths.map some) ++ outcomeTold name entered left)

/-- The end of the story is told of the breaker that is left. -/
private theorem Story.of_breaker?_eq {w'' : World} {ok : Bool} {starts : List Nat} {elapsed : Nat}
    {story : List Signal} (h : Story name options w w' ok starts elapsed story)
    (hsame : w''.breaker? (breakerKey name) = w'.breaker? (breakerKey name)) :
    Story name options w w'' ok starts elapsed story := by
  cases h with
  | invalid h => exact .invalid h
  | turnedAway hvalid hfull => exact .turnedAway hvalid hfull
  | refused hvalid hthrough hrefused => exact .refused hvalid hthrough hrefused
  | letIn hvalid hthrough hadmitted hpaced hcount hentered hsettled hleft =>
    exact .letIn hvalid hthrough hadmitted hpaced hcount hentered hsettled (hsame ▸ hleft)

/-- What the report of a call tells. -/
def reportTold (name : String) (elapsed : Nat) (result : Except (Fault OperationError) γ) :
    List Signal :=
  [.operationDuration name (millisWord elapsed),
    match result with
    | .ok _ => .operationSuccess name
    | .error fault => .operationFailure name fault.kind]

/-- The log line of a report is no signal. -/
theorem signals_report (name : String) (elapsed : Nat)
    (result : Except (Fault OperationError) γ) :
    Notice.signals (report name elapsed result) = reportTold name elapsed result := by
  cases result <;> rfl

/-- A call that was made in the world `w` was cut short. -/
def CutShort (name : String) (options : Options) (w : World) (s' : Scene) : Prop :=
  ∃ layers s, Equipped name options w layers s ∧
    CutIn name options layers (breakerFor name options w) (bulkheadFor name options w) s s'

/-- A call that was made in the world `w` has told its story. -/
def Told (name : String) (options : Options) (w : World) (ok : Bool) (closing : List Signal)
    (s' : Scene) : Prop :=
  s'.world.listening = w.listening ∧
    ∃ story, Story name options w s'.world ok (s'.record.starts.toList.map (· - w.now))
      (s'.world.now - w.now) story ∧
    Notice.signals s'.world.notices =
      Notice.signals w.notices ++ if w.listening then story ++ closing else []

/-- How a call has ended. -/
def Over (name : String) (options : Options) (w : World) :
    Ending (Except (Fault OperationError) γ) → Scene → Prop
  | .returned result, s' => Told name options w result.isOk
      (reportTold name (s'.world.now - w.now) result) s'
  | .panicked _, s' => CutShort name options w s'

/-- The report is told at the end. -/
theorem Told.reported {result : Except (Fault OperationError) γ}
    (h : Told name options w result.isOk [] s') : Over name options w (.returned result)
      { s' with world := s'.world.tell (report name (s'.world.now - w.now) result) } := by
  obtain ⟨hlistening, story, hstory, htold⟩ := h
  refine ⟨hlistening, story, hstory.of_breaker?_eq rfl, ?_⟩
  rw [World.signals_tell, signals_report, hlistening, htold]
  cases w.listening <;> simp

/-- What a call tells that has found its layers and returns. -/
private theorem Held.tells {layers : Layers} (hequipped : Equipped name options w layers s)
    {result : Except (Fault OperationError) γ}
    (h : Held name options layers (breakerFor name options w) (bulkheadFor name options w) s
      (.returned result) s') : Told name options w result.isOk [] s' := by
  obtain ⟨hvalid, hbreaker, -, -, -, hregisters, hsignals, hrecord⟩ := hequipped
  -- Looking the layers up was not told, so what the call tells is all that is new.
  have heard {breakers : List Breaker} {bulkheads : List Bulkhead} {story : List Signal}
      {begun : List Nat} (h : s.Onward breakers bulkheads story begun s') :
      s'.world.listening = w.listening ∧ Notice.signals s'.world.notices =
        Notice.signals w.notices ++ if w.listening then story ++ [] else [] := by
    rw [h.listening, h.signals, hsignals, hregisters.listening, List.append_nil]
    exact ⟨rfl, rfl⟩
  cases h with
  | turnedAway hfull h =>
    exact ⟨(heard h).1, _, .turnedAway hvalid ((letThrough_eq hvalid name w).trans hfull),
      (heard h).2⟩
  | through hthrough hbroken =>
    have hthrough := (letThrough_eq hvalid name w).trans hthrough
    -- A panic returns nothing.
    cases hbroken with
    | refused hrefuses h =>
      rw [hregisters.clock, ← admitted_eq] at hrefuses
      exact ⟨(heard h).1, _, .refused hvalid hthrough hrefuses, (heard h).2⟩
    | returned h =>
      obtain ⟨lengths, begun, t, hadmits, hpaced, hlimit, h⟩ := h
      rw [hregisters.clock] at h hadmits
      rw [← admitted_eq] at hadmits
      -- Times are counted from the beginning of the call.
      have hstarts : s'.record.starts.toList = begun := by simp [h.starts, hrecord, Record.empty]
      rw [show s.world.now = w.now from hregisters.now] at hpaced
      have hsince := hpaced.since (Nat.le_refl _)
      rw [Nat.sub_self, ← hstarts] at hsince
      have hcount : lengths.length < 2 ^ 32 := by
        rw [← hpaced.length_eq]
        exact Nat.lt_of_le_of_lt hlimit (attemptLimit_lt options)
      refine ⟨(heard h).1, _, .letIn hvalid hthrough hadmits hsince hcount rfl rfl fun b hb => ?_,
        (heard h).2⟩
      rw [Option.map_map] at hb
      have hfound := hbreaker.find_replaced _ b hb
      rw [World.breaker?, h.registry, h.breakers, Option.map_map]
      exact hfound

/-- A call that is made in the world `w`, while no other call goes on. -/
theorem alone_call (name : String) (options : Options) (script : Script β) (hnamed : w.Named) :
    (call name options script.operation).Alone
      (fun l s' => ∀ now clock, s'.world.now ≤ now →
        CutShort name options w ((s'.later now clock).leaves l))
      (Over name options w) ⟨w, .empty⟩ := by
  obtain ⟨answer, s, hreaches, hrecord, hnow, hlistening, hsignals, hfound⟩ :=
    resolve_equips (β := β) name options hnamed
  refine .act (.of_reaches ((hreaches.bind _).bind _) ?_)
  rcases hfound with ⟨e, rfl, hinvalid⟩ | ⟨layers, rfl, hequipped⟩
  · -- A call with a policy that is not in order returns at once.
    refine .act (.telling (.ended (Told.reported ⟨hlistening, [], .invalid hinvalid, ?_⟩)))
    exact hsignals.trans (by simp)
  · refine ((alone_held hequipped script).mono (fun l s' hwaits now clock hle => ?_)
      fun _ _ hended => hended).bind (fun result s' hended => ?_) fun message s' hended => ?_
    · exact ⟨layers, s, hequipped, hwaits now clock hle⟩
    · exact .act (.telling (.ended (hended.tells hequipped).reported))
    -- Only from inside the breaker can a panic come.
    · cases hended with
      | through hthrough hbroken =>
        cases hbroken with
        | panicked h => exact ⟨layers, s, hequipped, hthrough, h⟩

/-- The signals of a call that was made in the world `w`, returned with `result` and left the world
`w'`: its story, and its report. -/
def Tells (name : String) (options : Options) (w w' : World)
    (report : Report (Except (Fault OperationError) γ)) (result : Except (Fault OperationError) γ) :
    Prop :=
  ∃ elapsed story, report.elapsed = some elapsed ∧
    Story name options w w' result.isOk report.starts elapsed story ∧
    Notice.signals w'.notices = Notice.signals w.notices ++ story ++ reportTold name elapsed result

/-- The signals of a call that is over, read from its report. -/
private theorem Over.tells {result : Except (Fault OperationError) γ}
    (h : Over name options w (.returned result) s) (hlistening : w.listening = true) :
    Tells name options w s.world (s.record.report w.now s.world.now (some (.returned result)))
      result := by
  obtain ⟨-, story, hstory, htold⟩ := h
  refine ⟨s.world.now - w.now, story, rfl, hstory, ?_⟩
  rw [htold, hlistening, if_pos rfl, List.append_assoc]

/-- Time that passes after a call tells nothing. -/
theorem Tells.of_world_eq {report : Report (Except (Fault OperationError) γ)}
    {result : Except (Fault OperationError) γ} {w'' : World}
    (h : Tells name options w s.world report result)
    (hworld : w'' = (s.later w''.now w''.clock).world) :
    Tells name options w w'' report result := by
  obtain ⟨elapsed, story, helapsed, hstory, htold⟩ := h
  rw [hworld]
  exact ⟨elapsed, story, helapsed, hstory.of_breaker?_eq rfl, htold⟩

/-- A call that returns tells its story and its report, in this order, and nothing else. It is made
with an orchestrator that was used in any way before, and while no other call goes on. -/
theorem tells_story (name : String) (options : Options) (script : Script β)
    (before : List (Floor.Use β (Except (Fault OperationError) β))) :
    let f := (Floor.ofWorld (.start true)).uses before
    ∀ report w', f.ReportedAlone (call name options script.operation) report w' →
      ∀ result, report.ending = some (.returned result) →
        Tells name options f.world w' report result := by
  intro f report w' hreported result hending
  have hnamed : f.world.Named := Floor.named_of_start true before
  have hlistening : f.world.listening = true :=
    (World.abiding_listening true).uses (f := .ofWorld (.start true)) rfl before
  obtain ⟨ending, s, hleft, rfl, hworld⟩ :=
    hreported.left (alone_call name options script hnamed)
  obtain rfl : ending = some (.returned result) := hending
  -- It has returned, so it was not dropped.
  cases hleft with
  | ended hover => exact (Over.tells hover hlistening).of_world_eq hworld

/-- The breaker has opened and cooled down, and another call waits. The first attempt overruns its
deadline and fails; the second one brings a value, which closes the breaker. -/
theorem tells_story_recovered :
    let options : Options := ⟨some { RetryPolicy.standard with maxAttempts := 2 },
      some ⟨1, .ofSeconds 60, 1⟩, some .standard, some ⟨.ofMillis 3, .advisory⟩⟩
    let down : Script Nat := .repeating (.timed .zero (.error ⟨"down"⟩))
    let script : Script Nat := ⟨.timed (.ofMillis 5) (.error ⟨"down"⟩), [.timed .zero (.value 1)]⟩
    let x := call "api" options script.operation
    let before := [.call (call "api" options down.operation), .step (.advance (.ofSeconds 60)),
      .step (.start "other" (call "other" Options.none (Script.repeating .gated).operation))]
    let f := (Floor.ofWorld (.start true)).uses before
    let g := (f.start "first" x).run [.sleep (.ofMillis 200)]
    let told := [.stateChange "apiCircuitBreaker" .halfOpen, .operationDuration "apiTimeout" 5,
      .retryAttempt "apiRetry" 2, .stateChange "apiCircuitBreaker" .closed,
      .operationDuration "api" 105, .operationSuccess "api"]
    f.jobs.length = 1 ∧ f.RestsUntil (f.call x).2.world.now ∧ f.RestsUntil g.world.now ∧
      f.Unused "first" ∧ (f.call x).1.ending = some (.returned (.ok 1)) ∧
      ("first", (f.call x).1) ∈ g.completed ∧
      Tells "api" options f.world (f.call x).2.world (f.call x).1 (.ok 1) ∧
      Tells "api" options f.world g.world (f.call x).1 (.ok 1) ∧
      Notice.signals (f.call x).2.world.notices = Notice.signals f.world.notices ++ told ∧
      Notice.signals g.world.notices = Notice.signals f.world.notices ++ told := by
  intro options down script x before f g told
  have hall : f.jobs.all (fun j => j.due = none ∧ j.id ≠ "first") = true := by decide +kernel
  have hgated : ∀ j ∈ f.jobs, j.due = none ∧ j.id ≠ "first" :=
    fun j hj => of_decide_eq_true (List.all_eq_true.1 hall j hj)
  have hrests (t : Nat) : f.RestsUntil t := .of_due_eq_none t fun j hj => (hgated j hj).1
  have hdone : f.completed = [] := by decide +kernel
  have hunused : f.Unused "first" := ⟨fun j hj => (hgated j hj).2, hdone ▸ nofun⟩
  have hending : (f.call x).1.ending = some (.returned (.ok 1)) := by decide +kernel
  have hcompleted : ("first", (f.call x).1) ∈ g.completed := by decide +kernel
  have heq : f.call x = ((f.call x).1, (f.call x).2) := (Prod.eta _).symm
  have hcalled : Tells "api" options f.world (f.call x).2.world (f.call x).1 (.ok 1) :=
    tells_story "api" options script before _ _ (.foreground heq (by rw [hending]; rfl) (hrests _))
      _ hending
  have hstarted : Tells "api" options f.world g.world (f.call x).1 (.ok 1) := by
    refine tells_story "api" options script before _ _
      (.background (g := g) hunused (fun s hs => ?_) rfl hcompleted (hrests _)) _ hending
    rw [List.mem_singleton.1 hs]
    trivial
  exact ⟨by decide +kernel, hrests _, hrests _, hunused, hending, hcompleted, hcalled, hstarted,
    by decide +kernel, by decide +kernel⟩

end Orchestrator

end Safeguard
