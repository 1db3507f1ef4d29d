import Safeguard.Proofs.CallStory
import Safeguard.Proofs.RetryAgreement

/-!
# Calls that are cut short

A call is cut short if an attempt panics, or if it is dropped while it waits. Whatever it was doing,
its permit is given back, its breaker is as the admission of the call left it, nothing is reported
under its name, and of the retries each attempt that began is told. A breaker that does not probe
has counted no success, so its admission of a call changes no more than its state and the number of
calls that it let in.

## Key results

- `inFlight_registers`, `inFlight_onward`: the permits in use under every key
- `acquire_of_idle`: what the admission of a call changes
- `filter_attemptsTold`: the retries among the signals of the attempts
- `cut_short_consistent`: the state that a call leaves that is cut short
-/

namespace Safeguard

/-! ## Permits in use -/

/-- The permits in use of the bulkhead under a key; none if there is no bulkhead. -/
def World.inFlight (w : World) (key : String) : UInt64 :=
  ((w.bulkhead? key).map (·.inFlight)).getD 0

/-- A permit that was taken and given back. -/
theorem Bulkhead.inFlight_release_acquire {c : Bulkhead} (h : c.admits = true) :
    c.acquire.release.inFlight = c.inFlight := by
  simp [acquire, h, release, inFlight]

namespace Orchestrator

open World (Registers)

variable {name : String} {options : Options} {w : World} {s s' : Scene}

/-- A bulkhead that is made has no permit in use. -/
theorem inFlight_registers {made : Option BulkheadPolicy} {breaker : Option BreakerPolicy}
    {w' : World} (hnamed : w.Named) (h : Registers name made breaker w w')
    (hmade : made.isSome → w.registry.bulkheads.find? (bulkheadKey name) = none) (key : String) :
    w'.inFlight key = w.inFlight key := by
  cases made with
  | none =>
    have hsame : w'.bulkheads = w.bulkheads := by simpa using h.bulkheads
    have hdirectory : w'.registry.bulkheads = w.registry.bulkheads := h.bulkheadDirectory
    simp only [World.inFlight, World.bulkhead?, hsame, hdirectory]
  | some p =>
    -- The new bulkhead stands under the key of the call; all others stay where they are.
    by_cases hkey : key = bulkheadKey name
    · subst hkey
      have hold : w.bulkhead? (bulkheadKey name) = none := by simp [World.bulkhead?, hmade rfl]
      simp [World.inFlight, h.bulkhead?_eq rfl, hold, Bulkhead.inFlight, Bulkhead.fresh]
    · have hfind : w'.registry.bulkheads.find? key = w.registry.bulkheads.find? key := by
        rw [h.bulkheadDirectory]
        exact Directory.find?_insert_of_ne _ hkey _
      unfold World.inFlight World.bulkhead?
      rw [hfind, h.bulkheads]
      cases hi : w.registry.bulkheads.find? key with
      | none => rfl
      | some i =>
        obtain ⟨c, hc, -⟩ := hnamed.bulkhead key i hi
        have hlt := (List.getElem?_eq_some_iff.1 hc).1
        rw [Option.bind_some, Option.bind_some, List.getElem?_append_left hlt]

/-- A bulkhead that has as many permits in use as before. -/
theorem inFlight_replaced {key : String} {number : Option Nat} {l : List Bulkhead}
    {c : Option Bulkhead} {found : Option Nat}
    (h : Located Bulkhead.name key number l c found) {f : Bulkhead → Bulkhead}
    (hf : ∀ c' ∈ c, (f c').inFlight = c'.inFlight) (k : Nat) :
    ((replaced l found (c.map f))[k]?).map (·.inFlight) = (l[k]?).map (·.inFlight) := by
  cases h with
  | absent => rfl
  | @found c i _ hc _ =>
    -- Only the entry that was replaced can differ, and it has as many in use.
    show ((l.set i (f c))[k]?).map _ = _
    by_cases hik : i = k
    · subst hik
      have hlt := (List.getElem?_eq_some_iff.1 hc).1
      simp [List.getElem?_set_self hlt, hc, hf c rfl]
    · rw [List.getElem?_set_ne hik]

/-- A call that is cut short leaves the permits in use as they were, under every key. -/
private theorem CutShort.inFlight_eq (hnamed : w.Named) (h : CutShort name options w s')
    (key : String) :
    s'.world.inFlight key = w.inFlight key := by
  obtain ⟨layers, s, hequipped, hthrough, ran, begun, -, -, -, -, honward⟩ := h
  rw [← inFlight_registers hnamed hequipped.registers World.find_eq_none_of_madeBulkhead key]
  -- The permit that the call had is given back.
  have hpermit : ∀ c ∈ bulkheadFor name options w, c.acquire.release.inFlight = c.inFlight := by
    intro c hc
    rw [hc] at hthrough
    exact Bulkhead.inFlight_release_acquire hthrough
  unfold World.inFlight World.bulkhead?
  rw [honward.registry, honward.bulkheads]
  cases s.world.registry.bulkheads.find? key with
  | none => rfl
  | some k => exact congrArg (·.getD 0) (inFlight_replaced hequipped.bulkhead hpermit k)

end Orchestrator

/-! ## What an admission changes -/

namespace Breaker

/-- A breaker that does not probe has counted no success. -/
def CountsProbes (b : Breaker) : Prop := b.state ≠ .halfOpen → b.successes = 0

/-- A first probe starts the count again. -/
theorem CountsProbes.acquire {b : Breaker} (h : b.CountsProbes) (now : Duration) :
    (b.acquire now).CountsProbes := by
  rw [Breaker.acquire_eq]
  split
  · split
    · exact h
    · exact h
    · exact fun _ => rfl
  · exact h

/-- The success that closes the breaker clears the count. -/
theorem CountsProbes.succeed {b : Breaker} (h : b.CountsProbes) : b.succeed.CountsProbes := by
  rw [Breaker.succeed_eq]
  split
  · exact h
  · next hs =>
    split
    · exact fun _ => rfl
    · exact fun hne => absurd hs hne
  · exact h

/-- A failure that opens the breaker clears the count. -/
theorem CountsProbes.fail {b : Breaker} (h : b.CountsProbes) (now : Duration) :
    (b.fail now).CountsProbes := by
  rw [Breaker.fail_eq]
  split
  · next hs =>
    have hzero : b.successes = 0 := h (by simp [hs])
    split <;> exact fun _ => hzero
  · exact fun _ => rfl
  · exact h

/-- It stays so by each of its moves. -/
private theorem CountsProbes.of_moves {b b' : Breaker} (h : b.CountsProbes) (hmoves : b.Moves b') :
    b'.CountsProbes := by
  cases hmoves with
  | reset => exact fun _ => rfl
  | acquire now => exact h.acquire now
  | settle now success =>
    cases success with
    | true => exact h.succeed
    | false => exact h.fail now

/-- A breaker that admits a call counts it, and begins to probe if it was open. Nothing else of it
changes. -/
theorem CountsProbes.acquire_eq {b : Breaker} (h : b.CountsProbes) {now : Duration}
    (hadmits : b.admits now = true) : b.acquire now = { b with
      state := if b.state = .opened then .halfOpen else b.state
      admitted := b.admitted + 1 } := by
  cases hs : b.state with
  | closed | halfOpen => simp [acquire_of_ne_opened, hs]
  | opened =>
    have hzero := h (by simp [hs])
    simp [acquire_of_opened hs hadmits, hzero]

end Breaker

namespace Orchestrator

variable {name : String} {options : Options} {w : World} {s' : Scene}

/-- What holds of every registered breaker and of new ones holds of the breaker of a call. -/
private theorem breakerFor_of_each {Q : String → Breaker → Prop} (h : w.EachBreaker Q)
    (hfresh : ∀ key p, Q key (.fresh key p)) :
    ∀ b ∈ breakerFor name options w, Q (breakerKey name) b := by
  intro b hb
  obtain ⟨p, -, rfl⟩ := Option.map_eq_some_iff.1 hb
  -- The breaker of a call is the registered one or, if there is none, a fresh one.
  cases hstored : w.breaker? (breakerKey name) with
  | none => exact hfresh _ p
  | some b' =>
    obtain ⟨i, hi, hb'⟩ := Option.bind_eq_some_iff.1 hstored
    obtain ⟨b'', hb'', hQ⟩ := h _ i hi
    obtain rfl : b'' = b' := Option.some.inj (hb''.symm.trans hb')
    exact hQ

/-- A call that is cut short leaves its breaker as its admission left it. -/
theorem CutShort.breaker?_eq (hcounts : w.EachBreaker fun _ b => b.CountsProbes)
    (h : CutShort name options w s') : ∀ b ∈ breakerFor name options w,
      s'.world.breaker? (breakerKey name) = some (b.acquire w.clock.now) ∧
      b.acquire w.clock.now = { b with
        state := if b.state = .opened then .halfOpen else b.state
        admitted := b.admitted + 1 } := by
  obtain ⟨layers, s, hequipped, -, ran, begun, hadmits, -, -, -, honward⟩ := h
  intro b hb
  rw [hequipped.registers.clock, hb] at hadmits
  have hfound := hequipped.breaker.find_replaced (·.acquire s.world.clock.now) _
    (Option.mem_map_of_mem _ hb)
  rw [hequipped.registers.clock] at hfound honward
  refine ⟨?_, ?_⟩
  · rw [World.breaker?, honward.registry, honward.breakers]
    exact hfound
  -- An admission that has nothing of former probes to clear moves the state and the count only.
  · have hcounted : b.CountsProbes := breakerFor_of_each hcounts (fun _ _ _ => rfl) b hb
    exact hcounted.acquire_eq hadmits

/-! ## What is told -/

/-- A name with something added is another name. -/
private theorem append_ne_self (name : String) {suffix : String} (h : suffix ≠ "") :
    name ++ suffix ≠ name := by
  intro heq
  have hlength := congrArg String.length heq
  rw [String.length_append] at hlength
  have hempty : suffix.length = 0 := by omega
  exact h (String.length_eq_zero_iff.1 hempty)

/-- The retries of a call go by a name of their own. -/
private theorem retryKey_ne (name : String) :
    retryKey name ≠ name := append_ne_self name (by decide)

private theorem breakerKey_ne (name : String) :
    breakerKey name ≠ name := append_ne_self name (by decide)

private theorem timeoutKey_ne (name : String) :
    timeoutKey name ≠ name := append_ne_self name (by decide)

/-- Signals under a name are picked one by one. -/
private theorem under_append (name : String) (told more : List Signal) :
    Signal.under name (told ++ more) = Signal.under name told ++ Signal.under name more :=
  List.filter_append ..

/-- The breaker tells its move under its own key. -/
private theorem under_probeTold (name : String) (b : Option Breaker) :
    Signal.under name (probeTold name b) = [] := by
  unfold probeTold
  split <;> simp [Signal.under, Signal.name, breakerKey_ne]

/-- A deadline tells its overruns under its own key. -/
private theorem under_overran (name : String) (timeout : Option TimeoutPolicy) (ran : Option Nat) :
    Signal.under name (overran name timeout ran) = [] := by
  rcases overran_eq name timeout ran with h | ⟨ms, h⟩ <;> rw [h]
  · rfl
  · simp [Signal.under, Signal.name, timeoutKey_ne]

/-- Attempts tell nothing under the name of their call. -/
private theorem under_attemptsTold (name : String) (timeout : Option TimeoutPolicy) (made : Nat)
    (ran : List (Option Nat)) : Signal.under name (attemptsTold name timeout made ran) = [] := by
  induction ran generalizing made with
  | nil => rfl
  | cons r rest ih =>
    rw [attemptsTold, under_append, under_append, under_overran, ih (made + 1)]
    split <;> simp [Signal.under, Signal.name, retryKey_ne]

/-- An overrun is not a retry. -/
private theorem filter_overran (name : String) (timeout : Option TimeoutPolicy) (ran : Option Nat) :
    (overran name timeout ran).filter Signal.isRetry = [] := by
  rcases overran_eq name timeout ran with h | ⟨ms, h⟩ <;> rw [h] <;> rfl

/-- The signals of the retries numbered from `first` on. -/
def retriesTold (name : String) (first count : Nat) : List Signal :=
  (List.range' first count).map fun n => .retryAttempt (retryKey name) (.ofNat n)

/-- Every attempt that follows others is told once, in order. -/
theorem filter_attemptsTold (name : String) (timeout : Option TimeoutPolicy) (made : Nat)
    (ran : List (Option Nat)) :
    (attemptsTold name timeout (made + 1) ran).filter Signal.isRetry =
      retriesTold name (made + 2) ran.length := by
  induction ran generalizing made with
  | nil => rfl
  | cons r rest ih =>
    rw [attemptsTold, if_neg (Nat.succ_ne_zero made), List.filter_append, List.filter_append,
      filter_overran, ih (made + 1)]
    rfl

/-- The retries among the signals of a call are those of every attempt but the first. -/
private theorem filter_attemptsTold_zero (name : String) (timeout : Option TimeoutPolicy)
    (ran : List (Option Nat)) : (attemptsTold name timeout 0 ran).filter Signal.isRetry =
      retriesTold name 2 (ran.length - 1) := by
  cases ran with
  | nil => rfl
  | cons r rest =>
    rw [attemptsTold, if_pos rfl, List.nil_append, List.filter_append, filter_overran,
      filter_attemptsTold name timeout 0 rest]
    rfl

/-- A move of the breaker is not a retry. -/
private theorem filter_probeTold (name : String) (b : Option Breaker) :
    (probeTold name b).filter Signal.isRetry = [] := by
  unfold probeTold
  split <;> rfl

/-! ## The state that is left -/

/-- What a call leaves that was made in the world `w`, began `made` attempts and was cut short. It
had been let in. The permits in use are what they were, the breaker of the call is what its
admission made of it, nothing was told under the name of the call, and each attempt but the first
was told. -/
structure Undecided (name : String) (options : Options) (w w' : World) (made : Nat) : Prop where
  valid : options.Valid
  letIn : letThrough name options w = true ∧ admitted name options w = true
  inFlight : ∀ key, w'.inFlight key = w.inFlight key
  breaker : ∀ b ∈ breakerFor name options w,
    w'.breaker? (breakerKey name) = some (b.acquire w.clock.now) ∧
    b.acquire w.clock.now = { b with
      state := if b.state = .opened then .halfOpen else b.state
      admitted := b.admitted + 1 }
  begun : 0 < made ∧ made < 2 ^ 32
  signals : ∃ told, Notice.signals w'.notices =
      Notice.signals w.notices ++ (if w.listening then told else []) ∧
    Signal.under name told = [] ∧
    told.filter Signal.isRetry = retriesTold name 2 (made - 1)

/-- A call that is cut short is neither a success nor a failure. -/
private theorem CutShort.undecided (hnamed : w.Named)
    (hcounts : w.EachBreaker fun _ b => b.CountsProbes) (h : CutShort name options w s') :
    Undecided name options w s'.world s'.record.starts.size := by
  obtain ⟨layers, s, hequipped, hthrough, ran, begun, hadmits, hlength, hpos, hlimit, honward⟩ :=
    id h
  have hstarts : s'.record.starts.size = begun.length := by
    simp [← Array.length_toList, honward.starts, hequipped.record, Record.empty]
  rw [hequipped.registers.clock, ← admitted_eq] at hadmits
  refine ⟨hequipped.valid, ⟨(letThrough_eq hequipped.valid name w).trans hthrough, hadmits⟩,
    h.inFlight_eq hnamed, h.breaker?_eq hcounts, ?_,
    probeTold name (breakerFor name options w) ++ attemptsTold name options.timeout 0 ran,
    ?_, ?_, ?_⟩
  · rw [hstarts]
    exact ⟨hpos, Nat.lt_of_le_of_lt hlimit (attemptLimit_lt options)⟩
  · rw [honward.signals, hequipped.signals, hequipped.registers.listening]
  · rw [under_append, under_probeTold, under_attemptsTold]
    rfl
  -- One retry is told for each attempt after the first.
  · rw [List.filter_append, filter_probeTold, filter_attemptsTold_zero, hstarts, hlength]
    rfl

/-- Time that passes later does not matter. -/
theorem Undecided.of_world_eq {w' w'' : World} {made : Nat}
    (h : Undecided name options w w' made) {now : Nat} {clock : Clock}
    (hworld : w'' = { w' with now, clock }) : Undecided name options w w'' made := by
  subst hworld
  exact ⟨h.valid, h.letIn, h.inFlight, h.breaker, h.begun, h.signals⟩

/-- A call that is cut short leaves a consistent state, whether one of its attempts panicked or it
was dropped at any wait. It was made with an orchestrator that was used in any way before, and while
no other call went on. -/
theorem cut_short_consistent {β : Type} (listening : Bool) (name : String) (options : Options)
    (script : Script β) (before : List (Floor.Use β (Except (Fault OperationError) β))) :
    let f := (Floor.ofWorld (.start listening)).uses before
    ∀ report w', f.ReportedAlone (call name options script.operation) report w' →
      (∀ result, report.ending ≠ some (.returned result)) →
        Undecided name options f.world w' report.starts.length := by
  intro f report w' hreported hending
  have hnamed : f.world.Named := Floor.named_of_start listening before
  -- A reachable breaker has counted successes only while it probes.
  have hcounts : f.world.EachBreaker fun _ b => b.CountsProbes :=
    (World.abiding_eachBreaker (fun _ _ _ => rfl) fun _ _ _ hmoves h => h.of_moves hmoves).uses
      (f := .ofWorld (.start listening)) nofun before
  obtain ⟨ending, s, hleft, rfl, hworld⟩ :=
    hreported.left (alone_call name options script hnamed)
  have hcut : CutShort name options f.world s := by
    cases hleft with
    | dropped hwaits hnow clock => exact hwaits _ clock hnow
    | @ended ending s hover =>
      cases ending with
      | returned result => exact absurd rfl (hending result)
      | panicked message => exact hover
  have hsize : (s.record.report f.world.now s.world.now ending).starts.length =
      s.record.starts.size := by
    simp [Record.report]
  rw [hsize]
  exact (hcut.undecided hnamed hcounts).of_world_eq hworld

/-- The breaker has opened and cooled down. One call panics in its second attempt, and another one
is dropped there while it waits. Both leave a breaker that probes and has counted nothing. -/
theorem cut_short_consistent_probing :
    let options : Options := ⟨some .standard, some ⟨1, .ofSeconds 60, 2⟩, some .standard, none⟩
    let down : Script Nat := .repeating (.timed .zero (.error ⟨"down"⟩))
    let panicking : Script Nat := ⟨.timed .zero (.error ⟨"down"⟩), [.timed .zero (.panic "oops")]⟩
    let waiting : Script Nat := ⟨.timed .zero (.error ⟨"down"⟩), [.gated]⟩
    let before := [.call (call "api" options down.operation), .step (.advance (.ofSeconds 60))]
    let f := (Floor.ofWorld (.start true)).uses before
    let g := (f.call (call "api" options panicking.operation)).2
    let g' := (f.start "first" (call "api" options waiting.operation)).run
      [.sleep (.ofMillis 200), .drop "first"]
    (f.call (call "api" options panicking.operation)).1 =
        ⟨some (.panicked "oops"), [0, 100], 2, none⟩ ∧
      g'.completed = [("first", ⟨none, [0, 100], 1, none⟩)] ∧
      f.RestsUntil g.world.now ∧ f.RestsUntil g'.world.now ∧ f.Unused "first" ∧
      Undecided "api" options f.world g.world 2 ∧ Undecided "api" options f.world g'.world 2 ∧
      (g.world.breaker? "apiCircuitBreaker").map (·.state) = some .halfOpen ∧
      Notice.signals g'.world.notices = Notice.signals f.world.notices ++
        [.stateChange "apiCircuitBreaker" .halfOpen, .retryAttempt "apiRetry" 2] := by
  intro options down panicking waiting before f g g'
  have hcall : (f.call (call "api" options panicking.operation)).1 =
      ⟨some (.panicked "oops"), [0, 100], 2, none⟩ := by decide +kernel
  have hcompleted : g'.completed = [("first", ⟨none, [0, 100], 1, none⟩)] := by decide +kernel
  have hjobs : f.jobs = [] := List.eq_nil_of_length_eq_zero (by decide +kernel)
  have hdone : f.completed = [] := by decide +kernel
  have hrests (t : Nat) : f.RestsUntil t := .of_due_eq_none t (hjobs ▸ nofun)
  have hunused : f.Unused "first" := ⟨hjobs ▸ nofun, hdone ▸ nofun⟩
  have heq : f.call (call "api" options panicking.operation) =
      (⟨some (.panicked "oops"), [0, 100], 2, none⟩, g) := by
    rw [← hcall]
  have hpanicked : Undecided "api" options f.world g.world 2 :=
    cut_short_consistent true "api" options panicking before _ _
      (.foreground heq rfl (hrests _)) (fun _ => by simp)
  have hdropped : Undecided "api" options f.world g'.world 2 := by
    refine cut_short_consistent true "api" options waiting before _ _
      (.background (g := g') hunused (fun s hs => ?_) rfl
        (hcompleted ▸ List.mem_singleton_self _) (hrests _)) fun _ => by simp
    rcases List.mem_pair.1 hs with rfl | rfl
    · trivial
    · rfl
  exact ⟨hcall, hcompleted, hrests _, hrests _, hunused, hpanicked, hdropped, by decide +kernel,
    by decide +kernel⟩

end Orchestrator

end Safeguard
