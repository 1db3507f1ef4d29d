import Mathlib.Data.List.Induction
import Safeguard.Proofs.BreakerInvariant

/-!
# What a breaker knows of its past

A `Move` is an operation that runs nothing under the breaker. The `history` of a session lists the
moves with the states they found and left, and what the breaker has counted is read off the end of
this list: the failures since the closed breaker last had a clean slate (`sinceRenewal`), and the
outcomes since the half-open breaker let its first probe in (`sinceProbing`). These numbers decide
which move changes the state, so the state is a function of the history.

## Key results

- `Tallied.move`: what one move does to the counters
- `tallied_moves`: the counters after any history
- `state_move_of_closed`, `state_move_of_halfOpen`: the moves that change the state
- `state_follows_history`: the breaker as a function of its history
-/

namespace Safeguard

/-! ## The end of a list -/

section

variable {α γ : Type}

/-- The end of a list, from the last entry on that `p` picks; all of the list if `p` picks none. -/
def sinceLast (p : α → Bool) : List α → List α
  | [] => []
  | x :: l => if l.any p then sinceLast p l else x :: l

/-- One more entry begins a new end if `p` picks it, and is appended to the old one if not. -/
private theorem sinceLast_concat (p : α → Bool) (l : List α) (x : α) :
    sinceLast p (l ++ [x]) = if p x then [x] else sinceLast p l ++ [x] := by
  induction l with
  | nil => simp [sinceLast]
  | cons y l ih =>
    rw [List.cons_append, sinceLast, sinceLast, ih, List.any_append]
    cases l.any p <;> cases hx : p x <;> simp [hx]

/-- The end of a list whose entries are changed. -/
theorem sinceLast_map (p : γ → Bool) (f : α → γ) (l : List α) :
    sinceLast p (l.map f) = (sinceLast (fun x => p (f x)) l).map f := by
  induction l with
  | nil => rfl
  | cons x l ih =>
    have hany : (l.map f).any p = l.any fun x => p (f x) := List.any_map
    rw [List.map_cons, sinceLast, sinceLast, ih, hany]
    cases l.any fun x => p (f x) <;> rfl

/-- The end of a list is a suffix of it. -/
theorem sinceLast_suffix (p : α → Bool) (l : List α) : sinceLast p l <:+ l := by
  induction l with
  | nil => exact List.suffix_rfl
  | cons x l ih =>
    rw [sinceLast]
    split
    · exact ih.trans (List.suffix_cons x l)
    · exact List.suffix_rfl

/-- If `p` picks an entry, the end of the list begins with the last one. -/
theorem exists_sinceLast_eq_cons {p : α → Bool} {l : List α} (h : l.any p = true) :
    ∃ x rest, sinceLast p l = x :: rest ∧ p x = true ∧ rest.any p = false := by
  induction l with
  | nil => simp at h
  | cons y l ih =>
    rw [sinceLast]
    -- The last entry that `p` picks is in the rest, or it is this one.
    cases hl : l.any p with
    | true => exact ih hl
    | false =>
      rw [List.any_cons, hl, Bool.or_false] at h
      exact ⟨y, l, rfl, h, hl⟩

end

namespace Breaker

/-! ## Admission -/

/-- The closed and the half-open breaker count a call that asks for admission, and that is all. -/
theorem acquire_of_ne_opened {b : Breaker} (h : b.state ≠ .opened) (now : Duration) :
    b.acquire now = { b with admitted := b.admitted + 1 } := by
  cases hs : b.state with
  | closed | halfOpen => simp [acquire_eq, admits, hs]
  | opened => exact absurd hs h

/-- A call that the open breaker admits is its first probe. -/
theorem acquire_of_opened {b : Breaker} {now : Duration} (h : b.state = .opened)
    (hadmits : b.admits now = true) : b.acquire now =
      { b with state := .halfOpen, successes := 0, admitted := b.admitted + 1 } := by
  simp [acquire_eq, hadmits, h]

/-! ## Outcomes -/

theorem settle_true (b : Breaker) (now : Duration) : b.settle now true = b.succeed := rfl

theorem settle_false (b : Breaker) (now : Duration) : b.settle now false = b.fail now := rfl

/-- A success closes the half-open breaker, or leaves it half-open. -/
theorem state_succeed_of_halfOpen {b : Breaker} (h : b.state = .halfOpen) :
    b.succeed.state =
      if b.policy.successThreshold ≤ b.successes + 1 then .closed else .halfOpen := by
  simp only [succeed_eq, h]
  split <;> simp_all

/-- A failure opens the closed breaker, or leaves it closed. -/
theorem state_fail_of_closed {b : Breaker} (h : b.state = .closed) (now : Duration) :
    (b.fail now).state =
      if b.policy.failureThreshold ≤ countFailure b.failures then .opened else .closed := by
  simp only [fail_eq, h]
  split <;> simp_all

/-- A failure that opens the breaker leaves its time. -/
private theorem lastFailure_fail {b : Breaker} {now : Duration} (h : b.state ≠ .opened)
    (hopens : (b.fail now).state = .opened) : (b.fail now).lastFailure = some now := by
  cases hs : b.state with
  | opened => exact absurd hs h
  | halfOpen => simp [fail_eq, hs]
  | closed =>
    rw [state_fail_of_closed hs] at hopens
    -- A closed breaker opens only by the failure that reaches the threshold.
    have hle : b.policy.failureThreshold ≤ countFailure b.failures := by
      by_contra hlt
      simp [hlt] at hopens
    simp [fail_eq, hs, hle]

/-! ## Moves -/

/-- What can be done to a breaker and its clock without running an operation. -/
inductive Move where
  /-- A call asks for admission. -/
  | attempt
  /-- The outcome of a call is recorded. -/
  | outcome (success : Bool)
  | reset
  /-- The clock is moved. -/
  | advance (span : Duration)
deriving DecidableEq

/-- The operation that makes a move. -/
def Move.operation : Move → Operation Unit
  | attempt => .tryAcquire
  | outcome true => .recordSuccess
  | outcome false => .recordFailure
  | reset => .reset
  | advance span => .advance span

/-- A move with the states that it found and left. -/
structure Passage where
  move : Move
  before : BreakerState
  after : BreakerState

namespace Passage

variable (p : Passage)

/-- Whether an outcome of this kind was recorded. -/
def records (success : Bool) : Bool := p.move = .outcome success

/-- Whether the closed breaker has a clean slate after the move: a success was recorded, the breaker
was reset, or it was not closed before. -/
def renews : Bool :=
  p.move = .outcome true || p.move = .reset || (p.before ≠ .closed && p.after = .closed)

/-- Whether the first probe was let in. -/
def probes : Bool := p.before = .opened && p.after = .halfOpen

end Passage

/-- What has happened since the closed breaker last had a clean slate. -/
def sinceRenewal (history : List Passage) : List Passage := sinceLast Passage.renews history

/-- What has happened since the open breaker last let a first probe in. -/
def sinceProbing (history : List Passage) : List Passage := sinceLast Passage.probes history

private theorem sinceRenewal_concat (history : List Passage) (p : Passage) :
    sinceRenewal (history ++ [p]) = if p.renews then [p] else sinceRenewal history ++ [p] :=
  sinceLast_concat ..

/-- A first probe begins a new phase; any other move is part of the one that goes on. -/
theorem sinceProbing_concat (history : List Passage) (p : Passage) :
    sinceProbing (history ++ [p]) = if p.probes then [p] else sinceProbing history ++ [p] :=
  sinceLast_concat ..

/-- The outcomes of one kind that were recorded. -/
def recorded (success : Bool) (history : List Passage) : Nat := history.countP (·.records success)

/-- One more move adds one outcome at most. -/
theorem recorded_concat (success : Bool) (history : List Passage) (p : Passage) :
    recorded success (history ++ [p]) =
      recorded success history + if p.records success then 1 else 0 := by
  rw [recorded, List.countP_append, List.countP_singleton]
  rfl

namespace Session

variable (s : Session)

/-- The session after a move. -/
def move (m : Move) : Session := (s.perform m.operation).2

/-- The session after some moves. -/
def moves (ms : List Move) : Session := (s.run (ms.map Move.operation)).2

/-- A move as the session passes it. -/
def passage (m : Move) : Passage := ⟨m, s.breaker.state, (s.move m).breaker.state⟩

/-- The moves with the states that they found and left, in order. -/
def history (s : Session) : List Move → List Passage
  | [] => []
  | m :: ms => s.passage m :: (s.move m).history ms

/-- One more move is made after the others. -/
theorem moves_concat (ms : List Move) (m : Move) : s.moves (ms ++ [m]) = (s.moves ms).move m := by
  simp only [moves, List.map_append, run_append]
  rfl

/-- The history of one more move ends with its passage. -/
theorem history_concat (ms : List Move) (m : Move) :
    s.history (ms ++ [m]) = s.history ms ++ [(s.moves ms).passage m] := by
  induction ms generalizing s with
  | nil => rfl
  | cons m' ms ih => exact congrArg (s.passage m' :: ·) (ih (s.move m'))

@[simp] theorem breaker_move_attempt :
    (s.move .attempt).breaker = s.breaker.acquire s.clock.now := rfl

/-- A recorded outcome settles the breaker, whichever it is. -/
private theorem move_outcome (success : Bool) : s.move (.outcome success) = s.settle success := by
  cases success <;> rfl

@[simp] theorem breaker_move_outcome (success : Bool) :
    (s.move (.outcome success)).breaker = s.breaker.settle s.clock.now success := by
  rw [move_outcome]
  rfl

@[simp] theorem breaker_move_reset : (s.move .reset).breaker = s.breaker.reset := rfl

@[simp] theorem breaker_move_advance (span : Duration) :
    (s.move (.advance span)).breaker = s.breaker := by
  simp [move, Move.operation, perform_advance]

end Session

/-! ## What the breaker has counted -/

/-- What a breaker has counted is what its history says. -/
structure Tallied (history : List Passage) (b : Breaker) : Prop where
  closed : b.state = .closed → b.failures.toNat = recorded false (sinceRenewal history)
  halfOpen : b.state = .halfOpen → b.successes.toNat = recorded true (sinceProbing history) ∧
    recorded false (sinceProbing history) = 0 ∧ history.any Passage.probes = true

namespace Tallied

variable {history : List Passage} {s : Session} {m : Move}

/-- The open breaker counts nothing. -/
private theorem of_opened {b : Breaker} (h : b.state = .opened) : Tallied history b :=
  ⟨fun hclosed => by simp [h] at hclosed, fun hhalf => by simp [h] at hhalf⟩

/-- A success or a reset after which the breaker is closed gives it a clean slate. -/
theorem renewed (hm : m = .outcome true ∨ m = .reset) (hclosed : (s.move m).breaker.state = .closed)
    (hfailures : (s.move m).breaker.failures = 0) :
    Tallied (history ++ [s.passage m]) (s.move m).breaker := by
  have hrenews : (s.passage m).renews = true := by
    rcases hm with rfl | rfl <;> simp [Session.passage, Passage.renews]
  have hrecords : (s.passage m).records false = false := by
    rcases hm with rfl | rfl <;> simp [Session.passage, Passage.records]
  refine ⟨fun _ => ?_, fun hhalf => by simp [hclosed] at hhalf⟩
  rw [sinceRenewal_concat, if_pos hrenews, hfailures]
  simp [recorded, hrecords]

/-- A move that records nothing and leaves the breaker as it is. -/
theorem idle (h : Tallied history s.breaker) (hm : m = .attempt ∨ ∃ span, m = .advance span)
    (hstate : (s.move m).breaker.state = s.breaker.state)
    (hfailures : (s.move m).breaker.failures = s.breaker.failures)
    (hsuccesses : (s.move m).breaker.successes = s.breaker.successes) :
    Tallied (history ++ [s.passage m]) (s.move m).breaker := by
  have hrecords (success : Bool) : (s.passage m).records success = false := by
    rcases hm with rfl | ⟨span, rfl⟩ <;> simp [Session.passage, Passage.records]
  have hrenews : (s.passage m).renews = false := by
    rcases hm with rfl | ⟨span, rfl⟩ <;> simp_all [Session.passage, Passage.renews]
  -- A first probe leaves another state than it finds.
  have hprobes : (s.passage m).probes = false := by
    simp only [Session.passage, Passage.probes, hstate]
    cases s.breaker.state <;> rfl
  refine ⟨fun hclosed => ?_, fun hhalf => ?_⟩
  · rw [sinceRenewal_concat, hrenews, hfailures]
    simpa [recorded_concat, hrecords] using h.closed (hstate ▸ hclosed)
  · obtain ⟨hcount, hnone, hany⟩ := h.halfOpen (hstate ▸ hhalf)
    rw [sinceProbing_concat, hprobes, hsuccesses, List.any_append, hany]
    simpa [recorded_concat, hrecords] using And.intro hcount hnone

/-- A move of the closed breaker. -/
private theorem move_of_closed (h : Tallied history s.breaker)
    (hcounted : s.breaker.WellCounted s.clock.now) (hs : s.breaker.state = .closed) (m : Move) :
    Tallied (history ++ [s.passage m]) (s.move m).breaker := by
  cases m with
  | attempt =>
    have hafter : (s.move .attempt).breaker = _ := acquire_of_ne_opened (by simp [hs]) _
    exact h.idle (.inl rfl) (by rw [hafter]) (by rw [hafter]) (by rw [hafter])
  | advance span => exact h.idle (.inr ⟨span, rfl⟩) (by simp) (by simp) (by simp)
  | reset => exact renewed (.inr rfl) rfl rfl
  | outcome success =>
    cases success with
    | true =>
      exact renewed (.inl rfl) (by simp [settle, succeed_eq, hs]) (by simp [settle, succeed_eq, hs])
    | false =>
      simp only [WellCounted, hs] at hcounted
      have hcount := countFailure_of_lt hcounted.1
      by_cases hle : s.breaker.policy.failureThreshold ≤ countFailure s.breaker.failures
      · exact of_opened (by simp [settle, fail_eq, hs, hle])
      · -- The breaker stays closed with one more failure.
        have hafter : (s.move (.outcome false)).breaker =
            { s.breaker with failures := countFailure s.breaker.failures } := by
          simp [settle, fail_eq, hs, hle]
        have hrenews : (s.passage (.outcome false)).renews = false := by
          simp [Session.passage, Passage.renews, hs]
        refine ⟨fun _ => ?_, fun hhalf => by simp [hafter, hs] at hhalf⟩
        rw [sinceRenewal_concat, hrenews, hafter]
        simp [recorded_concat, Session.passage, Passage.records, hcount,
          toNat_add_one_of_lt hcounted.1, h.closed hs]

/-- A move of the half-open breaker. -/
private theorem move_of_halfOpen (h : Tallied history s.breaker)
    (hcounted : s.breaker.WellCounted s.clock.now) (hs : s.breaker.state = .halfOpen) (m : Move) :
    Tallied (history ++ [s.passage m]) (s.move m).breaker := by
  cases m with
  | attempt =>
    have hafter : (s.move .attempt).breaker = _ := acquire_of_ne_opened (by simp [hs]) _
    exact h.idle (.inl rfl) (by rw [hafter]) (by rw [hafter]) (by rw [hafter])
  | advance span => exact h.idle (.inr ⟨span, rfl⟩) (by simp) (by simp) (by simp)
  | reset => exact renewed (.inr rfl) rfl rfl
  | outcome success =>
    cases success with
    | false => exact of_opened (by simp [settle, fail_eq, hs])
    | true =>
      simp only [WellCounted, hs] at hcounted
      by_cases hle : s.breaker.policy.successThreshold ≤ s.breaker.successes + 1
      · exact renewed (.inl rfl) (by simp [settle, succeed_eq, hs, hle])
          (by simp [settle, succeed_eq, hs, hle])
      · -- The breaker stays half-open with one more success.
        have hafter : (s.move (.outcome true)).breaker =
            { s.breaker with successes := s.breaker.successes + 1 } := by
          simp [settle, succeed_eq, hs, hle]
        have hprobes : (s.passage (.outcome true)).probes = false := by
          simp [Session.passage, Passage.probes, hs]
        obtain ⟨hcount, hnone, hany⟩ := h.halfOpen hs
        refine ⟨fun hclosed => by simp [hafter, hs] at hclosed, fun _ => ?_⟩
        rw [sinceProbing_concat, hprobes, hafter, List.any_append, hany]
        simp [recorded_concat, Session.passage, Passage.records,
          toNat_add_one_of_lt hcounted.2.1, hcount, hnone]

/-- A move of the open breaker. -/
private theorem move_of_opened (hs : s.breaker.state = .opened) (m : Move) :
    Tallied (history ++ [s.passage m]) (s.move m).breaker := by
  cases m with
  | advance span => exact of_opened (by simpa using hs)
  | reset => exact renewed (.inr rfl) rfl rfl
  -- The open breaker ignores outcomes.
  | outcome success => exact of_opened (by cases success <;> simp [settle, succeed_eq, fail_eq, hs])
  | attempt =>
    cases hadmits : s.breaker.admits s.clock.now with
    | false => exact of_opened (by simp [acquire_eq, hadmits, hs])
    | true =>
      -- The first probe: nothing was recorded since.
      have hafter : (s.move .attempt).breaker =
          { s.breaker with
            state := .halfOpen, successes := 0, admitted := s.breaker.admitted + 1 } :=
        acquire_of_opened hs hadmits
      have hprobes : (s.passage .attempt).probes = true := by
        rw [Session.passage, hafter]
        simp [Passage.probes, hs]
      refine ⟨fun hclosed => by simp [hafter] at hclosed, fun _ => ?_⟩
      rw [sinceProbing_concat, if_pos hprobes, hafter, List.any_append, List.any_cons, hprobes]
      simp [recorded, Session.passage, Passage.records]

/-- One move of the breaker, and the counters still say what the history says. -/
theorem move (h : Tallied history s.breaker) (hcounted : s.breaker.WellCounted s.clock.now)
    (m : Move) : Tallied (history ++ [s.passage m]) (s.move m).breaker := by
  cases hs : s.breaker.state with
  | closed => exact h.move_of_closed hcounted hs m
  | halfOpen => exact h.move_of_halfOpen hcounted hs m
  | opened => exact move_of_opened hs m

end Tallied

/-- The counters of a new breaker after any moves. -/
theorem tallied_moves {policy : BreakerPolicy} (hvalid : policy.validate = .ok ()) (name : String)
    (ms : List Move) : Tallied ((Session.start (fresh name policy)).history ms)
      ((Session.start (fresh name policy)).moves ms).breaker := by
  induction ms using List.reverseRecOn with
  | nil => exact ⟨fun _ => rfl, nofun⟩
  | append_singleton ms m ih =>
    rw [Session.history_concat, Session.moves_concat]
    exact ih.move (WellCounted.run hvalid (wellCounted_fresh hvalid) _) m

/-! ## Changes of state -/

variable {history : List Passage} {s : Session}

/-- The closed breaker opens at the failure that makes up the threshold, and at nothing else. -/
theorem state_move_of_closed (h : Tallied history s.breaker)
    (hcounted : s.breaker.WellCounted s.clock.now) (hs : s.breaker.state = .closed) (m : Move) :
    (s.move m).breaker.state =
      if m = .outcome false ∧ recorded false (sinceRenewal history) + 1 =
        s.breaker.policy.failureThreshold.toNat then .opened else .closed := by
  cases m with
  | attempt => simp [acquire_of_ne_opened (b := s.breaker) (by simp [hs]), hs]
  | advance span => simp [hs]
  | reset => simp [reset]
  | outcome success =>
    cases success with
    | true => simp [settle, succeed_eq, hs]
    | false =>
      simp only [WellCounted, hs] at hcounted
      -- The count stands below the threshold, so that one more meets it or falls short of it.
      have hlt := UInt32.lt_iff_toNat_lt.1 hcounted.1
      have hle : s.breaker.policy.failureThreshold ≤ countFailure s.breaker.failures ↔
          recorded false (sinceRenewal history) + 1 = s.breaker.policy.failureThreshold.toNat := by
        rw [← h.closed hs, countFailure_of_lt hcounted.1, UInt32.le_iff_toNat_le,
          toNat_add_one_of_lt hcounted.1]
        omega
      rw [Session.breaker_move_outcome, settle_false, state_fail_of_closed hs]
      simp [hle]

/-- The half-open breaker opens at a failure, and closes at the success that makes up the threshold
and at a reset. -/
theorem state_move_of_halfOpen (h : Tallied history s.breaker)
    (hcounted : s.breaker.WellCounted s.clock.now) (hs : s.breaker.state = .halfOpen) (m : Move) :
    (s.move m).breaker.state =
      if m = .outcome false then .opened
      else if m = .reset ∨ m = .outcome true ∧ recorded true (sinceProbing history) + 1 =
        s.breaker.policy.successThreshold.toNat then .closed else .halfOpen := by
  cases m with
  | attempt => simp [acquire_of_ne_opened (b := s.breaker) (by simp [hs]), hs]
  | advance span => simp [hs]
  | reset => simp [reset]
  | outcome success =>
    cases success with
    | false => simp [settle, fail_eq, hs]
    | true =>
      simp only [WellCounted, hs] at hcounted
      -- As for the failures of the closed breaker.
      have hlt := UInt32.lt_iff_toNat_lt.1 hcounted.2.1
      have hle : s.breaker.policy.successThreshold ≤ s.breaker.successes + 1 ↔
          recorded true (sinceProbing history) + 1 = s.breaker.policy.successThreshold.toNat := by
        rw [← (h.halfOpen hs).1, UInt32.le_iff_toNat_le, toNat_add_one_of_lt hcounted.2.1]
        omega
      rw [Session.breaker_move_outcome, settle_true, state_succeed_of_halfOpen hs]
      simp [hle]

/-- The open breaker ignores outcomes. -/
private theorem move_outcome_of_opened (hs : s.breaker.state = .opened) (success : Bool) :
    s.move (.outcome success) = s := by
  have hsame : s.breaker.settle s.clock.now success = s.breaker := by
    cases success <;> simp [settle, succeed_eq, fail_eq, hs]
  rw [Session.move_outcome]
  simp [Session.settle, Session.become, settleNotices_eq, hsame, crossing]

/-- A move that opens the breaker is a failure, and its time is kept. -/
private theorem lastFailure_move_of_opens (hs : s.breaker.state ≠ .opened) {m : Move}
    (hopens : (s.move m).breaker.state = .opened) :
    (s.move m).breaker.lastFailure = some s.clock.now := by
  -- Only a failure opens a breaker that is not open.
  cases m with
  | attempt => simp [acquire_of_ne_opened hs, hs] at hopens
  | advance span => simp [hs] at hopens
  | reset => simp [reset] at hopens
  | outcome success =>
    rw [Session.breaker_move_outcome] at hopens ⊢
    cases success with
    | false => exact lastFailure_fail hs hopens
    | true =>
      rw [settle_true] at hopens
      cases hstate : s.breaker.state with
      | opened => exact absurd hstate hs
      | closed => simp [succeed_eq, hstate] at hopens
      | halfOpen =>
        rw [state_succeed_of_halfOpen hstate] at hopens
        split at hopens <;> cases hopens

/-- What a breaker with a policy is and does next, as its history tells it. -/
structure Remembers (policy : BreakerPolicy) (history : List Passage) (s : Session) : Prop where
  /-- The closed breaker has counted the failures since it last had a clean slate. -/
  failures : s.breaker.state = .closed →
    s.breaker.failures.toNat = recorded false (sinceRenewal history)
  /-- Only the failure that makes this number the threshold opens the closed breaker. -/
  leavesClosed : s.breaker.state = .closed → ∀ m : Move, (s.move m).breaker.state =
    if m = .outcome false ∧ recorded false (sinceRenewal history) + 1 =
      policy.failureThreshold.toNat then .opened else .closed
  /-- The half-open breaker was open once, has counted the successes since it let a first probe in,
  and no failure has come since. -/
  successes : s.breaker.state = .halfOpen → history.any Passage.probes = true ∧
    s.breaker.successes.toNat = recorded true (sinceProbing history) ∧
      recorded false (sinceProbing history) = 0
  /-- The half-open breaker opens at the first failure. The success that makes this number the
  threshold closes it, and so does a reset, at any time. -/
  leavesHalfOpen : s.breaker.state = .halfOpen → ∀ m : Move, (s.move m).breaker.state =
    if m = .outcome false then .opened
    else if m = .reset ∨ m = .outcome true ∧ recorded true (sinceProbing history) + 1 =
      policy.successThreshold.toNat then .closed else .halfOpen
  /-- A move that opens the breaker leaves its time. -/
  opens : s.breaker.state ≠ .opened → ∀ m : Move, (s.move m).breaker.state = .opened →
    (s.move m).breaker.lastFailure = some s.clock.now
  /-- The open breaker ignores outcomes. -/
  ignores : s.breaker.state = .opened → ∀ success, s.move (.outcome success) = s

/-- The state of a breaker is a function of what has happened to it. -/
theorem state_follows_history {name : String} {policy : BreakerPolicy} {b : Breaker}
    (hb : make name policy = .ok b) (ms : List Move) :
    Remembers policy ((Session.start b).history ms) ((Session.start b).moves ms) := by
  obtain ⟨hvalid, rfl⟩ := make_eq_ok_iff.1 hb
  have htallied := tallied_moves hvalid name ms
  -- Both invariants hold after the moves: the counters are within bounds, and are those of the
  -- history.
  have hcounted : ((Session.start (fresh name policy)).moves ms).breaker.WellCounted
      ((Session.start (fresh name policy)).moves ms).clock.now :=
    WellCounted.run hvalid (wellCounted_fresh hvalid) _
  have hpolicy : ((Session.start (fresh name policy)).moves ms).breaker.policy = policy :=
    (identity_run _ _).2
  refine ⟨htallied.closed, fun hs m => ?_, fun hs => ?_, fun hs m => ?_, fun hs m hopens => ?_,
    fun hs success => move_outcome_of_opened hs success⟩
  · rw [state_move_of_closed htallied hcounted hs, hpolicy]
  · obtain ⟨hcount, hnone, hany⟩ := htallied.halfOpen hs
    exact ⟨hany, hcount, hnone⟩
  · rw [state_move_of_halfOpen htallied hcounted hs, hpolicy]
  · exact lastFailure_move_of_opens hs hopens

/-- A breaker that two failures in a row open and two successes close, with one of them seen. -/
theorem state_follows_history_probed :
    let b := fresh "db" ⟨2, .ofSeconds 60, 2⟩
    let ms : List Move := [.outcome false, .outcome true, .outcome false, .outcome false,
      .advance (.ofSeconds 60), .attempt, .outcome true]
    let s := (Session.start b).moves ms
    let history := (Session.start b).history ms
    make "db" ⟨2, .ofSeconds 60, 2⟩ = .ok b ∧ s.breaker.state = .halfOpen ∧
      s.breaker.successes.toNat = recorded true (sinceProbing history) ∧
      recorded true (sinceProbing history) = 1 ∧
      (s.move (.outcome true)).breaker.state = .closed := by
  intro b ms s history
  have hremembers : Remembers ⟨2, .ofSeconds 60, 2⟩ history s := state_follows_history rfl ms
  have hstate : s.breaker.state = .halfOpen := by decide +kernel
  obtain ⟨-, hcount, -⟩ := hremembers.successes hstate
  have hone : recorded true (sinceProbing history) = 1 := by decide +kernel
  have hcloses := hremembers.leavesHalfOpen hstate (.outcome true)
  rw [hone] at hcloses
  exact ⟨rfl, hstate, hcount, hone, by simpa using hcloses⟩

end Breaker

end Safeguard
