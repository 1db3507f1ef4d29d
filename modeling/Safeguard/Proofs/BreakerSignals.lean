import Mathlib.Data.List.Chain
import Safeguard.Proofs.BreakerHistory
import Safeguard.Proofs.SampleReadings

/-!
# What a breaker tells of its states

A breaker tells each state that it moves to by a signal. An `Edge` is a move that it can make, and a
`Path` is a row of them, with the states that it comes to listed in order. Every operation on a
session tells the states of a path from the state it found to the one it left (`Tells`), so the
signals of a whole history are a path from the closed breaker to the breaker as it is.

## Key results

- `edge_acquire`, `edge_settle`: what an admission and an outcome do to the state
- `tells_perform`, `tells_run`: the signals of one operation and of a history
- `signals_replay_states`: the signals of a new breaker, read from its first day on
-/

namespace Safeguard

/-! ## Moves between states -/

/-- The moves of a breaker from one state to another; the last is made by a reset only. -/
inductive BreakerState.Edge (reset : Bool) : BreakerState → BreakerState → Prop
  | opens : Edge reset .closed .opened
  | probes : Edge reset .opened .halfOpen
  | closes : Edge reset .halfOpen .closed
  | reopens : Edge reset .halfOpen .opened
  /-- A reset of the open breaker; a reset of the half-open one is the move `closes`. -/
  | clears (h : reset = true) : Edge reset .opened .closed

namespace BreakerState

/-- A row of moves from one state to another; the list holds each state that a move leads to. -/
inductive Path (E : BreakerState → BreakerState → Prop) :
    BreakerState → List BreakerState → BreakerState → Prop
  | nil (s : BreakerState) : Path E s [] s
  | cons {s t u : BreakerState} {told : List BreakerState} (move : E s t) (rest : Path E t told u) :
    Path E s (t :: told) u

variable {E E' : BreakerState → BreakerState → Prop} {s t u : BreakerState}
  {told more : List BreakerState}

/-- No move leads from a state to itself. -/
private theorem Edge.ne {reset : Bool} (h : Edge reset s t) : s ≠ t := by
  cases h <;> decide

/-- A row of operations without a reset makes no move that one with a reset could not. -/
theorem Edge.mono {reset reset' : Bool} (hle : reset = true → reset' = true)
    (h : Edge reset s t) : Edge reset' s t := by
  cases h with
  | opens => exact .opens
  | probes => exact .probes
  | closes => exact .closes
  | reopens => exact .reopens
  | clears h => exact .clears (hle h)

namespace Path

/-- Two paths make one where the first ends and the second begins. -/
theorem append (h : Path E s told t) (h' : Path E t more u) : Path E s (told ++ more) u := by
  induction h with
  | nil => exact h'
  | cons move _ ih => exact .cons move (ih h')

/-- A path keeps to any wider choice of moves. -/
theorem mono (hle : ∀ s t, E s t → E' s t) (h : Path E s told t) : Path E' s told t := by
  induction h with
  | nil => exact .nil _
  | cons move _ ih => exact .cons (hle _ _ move) ih

/-- Two states that follow each other are joined by a move. -/
private theorem isChain (h : Path E s told t) : (s :: told).IsChain E := by
  induction h with
  | nil => exact .singleton _
  | cons move _ ih => exact .cons_cons move ih

/-- A path leads to the last of its states. -/
private theorem getLastD_eq (h : Path E s told t) : told.getLast?.getD s = t := by
  induction h with
  | nil => rfl
  | @cons s t u told _ _ ih =>
    rw [List.getLast?_cons]
    exact ih

end Path

end BreakerState

namespace Breaker

open BreakerState

/-! ## One move of the breaker -/

/-- What a breaker tells, besides log lines, when it has become another one. -/
theorem signals_crossing (b after : Breaker) :
    Notice.signals (b.crossing after) =
      if b.state = after.state then [] else [.stateChange b.name after.state] := by
  unfold crossing
  split
  · rfl
  · cases after.state <;> rfl

/-- A breaker that made a move, or none, has told so. -/
private theorem path_crossing {E : BreakerState → BreakerState → Prop} {b after : Breaker}
    (h : b.state ≠ after.state → E b.state after.state) :
    ∃ told, Notice.signals (b.crossing after) = told.map (Signal.stateChange b.name) ∧
      Path E b.state told after.state := by
  rw [signals_crossing]
  by_cases hs : b.state = after.state
  · exact ⟨[], by simp [hs], hs ▸ .nil _⟩
  · exact ⟨[after.state], by simp [hs], .cons (h hs) (.nil _)⟩

variable {b : Breaker} {now : Duration}

/-- A call that asks for admission makes the open breaker half-open, or leaves the state alone. -/
theorem edge_acquire (reset : Bool) (h : b.state ≠ (b.acquire now).state) :
    Edge reset b.state (b.acquire now).state := by
  cases hadmits : b.admits now with
  | false => exact absurd (by rw [acquire_of_refuses hadmits]) h
  | true =>
    cases hs : b.state with
    | closed | halfOpen => exact absurd (by rw [acquire_of_ne_opened (by simp [hs])]) h
    | opened =>
      rw [acquire_of_opened hs hadmits]
      exact .probes

/-- An outcome opens the closed breaker, ends the probing of the half-open one, or leaves the state
alone. -/
theorem edge_settle (reset : Bool) {success : Bool}
    (h : b.state ≠ (b.settle now success).state) :
    Edge reset b.state (b.settle now success).state := by
  -- Where the state stays as it is the hypothesis is refuted.
  cases success with
  | true =>
    rw [settle_true] at h ⊢
    cases hs : b.state with
    | closed | opened => exact absurd (by simp [succeed_eq, hs]) h
    | halfOpen =>
      rw [state_succeed_of_halfOpen hs] at h ⊢
      split at h
      · next hle => simpa [hle] using Edge.closes
      · exact absurd hs h
  | false =>
    rw [settle_false] at h ⊢
    cases hs : b.state with
    | closed =>
      rw [state_fail_of_closed hs] at h ⊢
      split at h
      · next hle => simpa [hle] using Edge.opens
      · exact absurd hs h
    | halfOpen => simpa [fail_eq, hs] using Edge.reopens
    | opened => exact absurd (by simp [fail_eq, hs]) h

/-- A call that asks for admission tells its move. -/
private theorem path_acquireNotices (reset : Bool) :
    ∃ told, Notice.signals (b.acquireNotices now) = told.map (Signal.stateChange b.name) ∧
      Path (Edge reset) b.state told (b.acquire now).state := by
  rw [acquireNotices_eq]
  exact path_crossing (edge_acquire reset)

/-- An outcome tells its move. -/
private theorem path_settleNotices (reset : Bool) {success : Bool} :
    ∃ told, Notice.signals (b.settleNotices now success) =
        told.map (Signal.stateChange b.name) ∧
      Path (Edge reset) b.state told (b.settle now success).state := by
  rw [settleNotices_eq]
  exact path_crossing (edge_settle reset)

/-- A reset tells that the breaker is closed, unless it was before. -/
theorem signals_resetNotices (b : Breaker) :
    Notice.signals b.resetNotices =
      if b.state = .closed then [] else [.stateChange b.name .closed] := by
  unfold resetNotices
  split <;> rfl

/-! ## Sessions -/

namespace Session

variable {β : Type}

/-- From one session to another, the breaker told the states of a path, each by one signal, and
nothing else. -/
structure Tells (E : BreakerState → BreakerState → Prop) (s s' : Session)
    (told : List BreakerState) : Prop where
  name : s'.breaker.name = s.breaker.name
  signals : Notice.signals s'.notices =
    Notice.signals s.notices ++ told.map (Signal.stateChange s.breaker.name)
  path : Path E s.breaker.state told s'.breaker.state

variable {E E' : BreakerState → BreakerState → Prop} {s s' s'' : Session}
  {told more : List BreakerState}

theorem Tells.refl (s : Session) : Tells E s s [] := ⟨rfl, by simp, .nil _⟩

/-- What is told by one operation and by the next is told by both. -/
theorem Tells.trans (h : Tells E s s' told) (h' : Tells E s' s'' more) :
    Tells E s s'' (told ++ more) where
  name := h'.name.trans h.name
  signals := by rw [h'.signals, h.signals, h.name, List.map_append, List.append_assoc]
  path := h.path.append h'.path

/-- What is told does not change with the choice of moves. -/
theorem Tells.mono (hle : ∀ s t, E s t → E' s t) (h : Tells E s s' told) : Tells E' s s' told :=
  ⟨h.name, h.signals, h.path.mono hle⟩

/-- A session whose breaker becomes another one by one move tells this move. -/
private theorem tells_become {b : Breaker} {notices : List Notice} (hname : b.name = s.breaker.name)
    (h : ∃ told, Notice.signals notices = told.map (Signal.stateChange s.breaker.name) ∧
      Path E s.breaker.state told b.state) :
    ∃ told, Tells E s (s.become b notices) told := by
  obtain ⟨told, hsignals, hpath⟩ := h
  refine ⟨told, hname, ?_, hpath⟩
  rw [← hsignals]
  exact Notice.signals_append ..

/-- A request for admission tells the move that it makes, if any. -/
private theorem tells_acquire (reset : Bool) (s : Session) :
    ∃ told, Tells (Edge reset) s s.acquire told :=
  tells_become (name_acquire _ _) (path_acquireNotices reset)

/-- An outcome tells the move that it makes, if any. -/
private theorem tells_settle (reset : Bool) (s : Session) (success : Bool) :
    ∃ told, Tells (Edge reset) s (s.settle success) told :=
  tells_become (name_settle _ _ _) (path_settleNotices reset)

/-- A log line tells no state. -/
private theorem tells_log (s : Session) {lines : List Notice} (h : Notice.signals lines = []) :
    Tells E s (s.become s.breaker lines) [] where
  name := rfl
  signals := by
    show Notice.signals (s.notices ++ lines) = _
    rw [Notice.signals_append, h]
    rfl
  path := .nil _

/-- A call tells what its admission does and then what its outcome does. -/
private theorem tells_guard (reset : Bool) (s : Session) (logged : Bool) (outcome : Outcome β) :
    ∃ told, Tells (Edge reset) s (s.guard logged outcome).2 told := by
  obtain ⟨told, hacquire⟩ := tells_acquire reset s
  unfold guard
  split
  · -- That an operation was run is not told by the breaker.
    have hinvoked : Tells (Edge reset) s
        { s.acquire with invocations := s.acquire.invocations + 1 } told :=
      ⟨hacquire.name, hacquire.signals, hacquire.path⟩
    cases outcome with
    | value v =>
      obtain ⟨more, hsettle⟩ := tells_settle reset _ true
      exact ⟨_, hinvoked.trans hsettle⟩
    | error e =>
      obtain ⟨more, hsettle⟩ := tells_settle reset _ false
      refine ⟨_, (hinvoked.trans hsettle).trans (tells_log _ ?_)⟩
      split <;> rfl
    | panic message => exact ⟨told, hinvoked⟩
  · exact ⟨_, hacquire.trans (tells_log _ rfl)⟩

/-- One operation tells the states of a path from the state it found to the one it left. -/
theorem tells_perform (s : Session) (op : Operation β) :
    ∃ told, Tells (Edge op.isReset) s (s.perform op).2 told := by
  cases op with
  | tryAcquire => exact tells_acquire _ s
  | execute outcome => exact tells_guard _ s true outcome
  | call outcome => exact tells_guard _ s false outcome
  | recordSuccess => exact tells_settle _ s true
  | recordFailure => exact tells_settle _ s false
  | reset =>
    refine tells_become rfl ?_
    -- A reset is the only operation that leads from the open state straight to the closed one.
    rw [signals_resetNotices]
    cases hs : s.breaker.state with
    | closed => exact ⟨[], rfl, .nil _⟩
    | opened => exact ⟨[.closed], rfl, .cons (.clears rfl) (.nil _)⟩
    | halfOpen => exact ⟨[.closed], rfl, .cons .closes (.nil _)⟩
  | advance span =>
    rw [perform_advance]
    exact ⟨[], rfl, by simp, .nil _⟩

/-- A history tells the states of a path from the state it found to the one it left. -/
theorem tells_run (s : Session) (ops : List (Operation β)) :
    ∃ told, Tells (Edge (ops.any (·.isReset))) s (s.run ops).2 told := by
  induction ops generalizing s with
  | nil => exact ⟨[], .refl s⟩
  | cons op ops ih =>
    obtain ⟨told, hop⟩ := tells_perform s op
    obtain ⟨more, hops⟩ := ih (s.perform op).2
    refine ⟨told ++ more, Tells.trans (hop.mono ?_) (hops.mono ?_)⟩
    -- A reset anywhere in the history allows the move that only a reset makes.
    · exact fun _ _ => Edge.mono fun h => by simp [h]
    · exact fun _ _ => Edge.mono fun h => by rw [List.any_cons, h, Bool.or_true]

end Session

/-! ## The signals of a new breaker -/

/-- The states told under the name that all of them are told under. -/
private theorem stateChanges_map (name : String) (told : List BreakerState) :
    Signal.stateChanges name (told.map (Signal.stateChange name)) = told := by
  simp [Signal.stateChanges, List.filterMap_map]

/-- A gauge tells the states apart. -/
private theorem level_inj (state state' : BreakerState) :
    Binary64.ofNat state.gauge = .ofNat state'.gauge ↔ state = state' := by
  cases state <;> cases state' <;> decide +kernel

/-- After any history of a new breaker its signals, read from the closed state on, are a path to the
state that it is in. Each of them tells another state than the one before, and one more operation
`op` tells the moves from the state before it to the state after it; only a reset goes from the open
state to the closed one. A gauge that is set by these signals, and that shows a closed breaker until
it is set, shows the state of the breaker: it is at 0, 1 and 2 exactly while the breaker is closed,
half-open and open. -/
theorem signals_replay_states {β : Type} {name : String} {policy : BreakerPolicy} {b : Breaker}
    (hb : make name policy = .ok b) (ops : List (Operation β)) :
    let s := ((Session.start b).run ops).2
    let shown := (Sample.level Sample.stateLevel [("name", name)]
      (Sample.ofRecording (Notice.signals s.notices))).getD (.ofNat BreakerState.closed.gauge)
    ∃ told : List BreakerState,
      Notice.signals s.notices = told.map (Signal.stateChange name) ∧
      Path (Edge (ops.any (·.isReset))) .closed told s.breaker.state ∧
      (.closed :: told).IsChain (· ≠ ·) ∧
      told.getLast?.getD .closed = s.breaker.state ∧
      shown = .ofNat s.breaker.state.gauge ∧
      (shown = .ofNat 0 ↔ s.breaker.state = .closed) ∧
      (shown = .ofNat 1 ↔ s.breaker.state = .halfOpen) ∧
      (shown = .ofNat 2 ↔ s.breaker.state = .opened) ∧
      ∀ op : Operation β, ∃ more : List BreakerState,
        Notice.signals (s.perform op).2.notices = (told ++ more).map (Signal.stateChange name) ∧
        Path (Edge op.isReset) s.breaker.state more (s.perform op).2.breaker.state := by
  intro s shown
  obtain ⟨-, rfl⟩ := make_eq_ok_iff.1 hb
  obtain ⟨told, htold⟩ := Session.tells_run (Session.start (fresh name policy)) ops
  have hname : s.breaker.name = name := htold.name
  have hsignals : Notice.signals s.notices = told.map (Signal.stateChange name) := htold.signals
  have hlast : told.getLast?.getD .closed = s.breaker.state := htold.path.getLastD_eq
  have hshown : shown = .ofNat s.breaker.state.gauge := by
    show (Sample.level _ _ _).getD _ = _
    rw [Sample.level_ofRecording, hsignals, stateChanges_map, ← hlast]
    exact Option.getD_map (fun state : BreakerState => Binary64.ofNat state.gauge) .closed _
  refine ⟨told, hsignals, htold.path, htold.path.isChain.imp fun _ _ => Edge.ne, hlast, hshown,
    ?_, ?_, ?_, fun op => ?_⟩
  -- The gauge shows the state, and different states are shown differently.
  · rw [hshown]
    exact level_inj _ .closed
  · rw [hshown]
    exact level_inj _ .halfOpen
  · rw [hshown]
    exact level_inj _ .opened
  · obtain ⟨more, hmore⟩ := Session.tells_perform s op
    exact ⟨more, by rw [hmore.signals, hname, hsignals, List.map_append], hmore.path⟩

/-- A breaker that opens, lets a probe in that fails, is reset twice, and opens again. -/
theorem signals_replay_states_reset :
    make "db" ⟨1, .ofSeconds 10, 1⟩ = .ok (fresh "db" ⟨1, .ofSeconds 10, 1⟩) ∧
      let s := ((Session.start (fresh "db" ⟨1, .ofSeconds 10, 1⟩)).run
        [.recordFailure, .advance (.ofSeconds 10), .execute (.error ⟨"down"⟩), .reset, .reset,
          (.recordFailure : Operation Unit)]).2
      Notice.signals s.notices =
          [.opened, .halfOpen, .opened, .closed, .opened].map (Signal.stateChange "db") ∧
        (∃ told, Notice.signals s.notices = told.map (Signal.stateChange "db") ∧
          Path (Edge true) .closed told s.breaker.state) ∧
        Sample.level Sample.stateLevel [("name", "db")]
          (Sample.ofRecording (Notice.signals s.notices)) = some (.ofNat 2) ∧
        s.breaker.state = .opened := by
  have hb : make "db" ⟨1, .ofSeconds 10, 1⟩ = .ok (fresh "db" ⟨1, .ofSeconds 10, 1⟩) := rfl
  obtain ⟨told, hsignals, hpath, -, -, -, -, -, hopened, -⟩ := signals_replay_states hb
    [.recordFailure, .advance (.ofSeconds 10), .execute (.error ⟨"down"⟩), .reset, .reset,
      (.recordFailure : Operation Unit)]
  have hnotices : Notice.signals ((Session.start (fresh "db" ⟨1, .ofSeconds 10, 1⟩)).run
      [.recordFailure, .advance (.ofSeconds 10), .execute (.error ⟨"down"⟩), .reset, .reset,
        (.recordFailure : Operation Unit)]).2.notices =
      [.opened, .halfOpen, .opened, .closed, .opened].map (Signal.stateChange "db") := rfl
  have hlevel : Sample.level Sample.stateLevel [("name", "db")] (Sample.ofRecording
      ([.opened, .halfOpen, .opened, .closed, .opened].map (Signal.stateChange "db"))) =
        some (.ofNat 2) := by decide +kernel
  rw [hnotices, hlevel] at hopened
  refine ⟨hb, hnotices, ⟨told, hsignals, hpath⟩, ?_, hopened.1 (Option.getD_some ..)⟩
  rw [hnotices, hlevel]

end Breaker

end Safeguard
