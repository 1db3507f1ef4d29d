import Safeguard.Proofs.BreakerHistory

/-!
# Calls and probes

Calls overlap, and an outcome does not tell when its call was admitted. This file follows calls by
number: a call asks for admission once, and if it is admitted it records one outcome later, while
other calls begin and end and time passes (`Session.Interleaves`). The half-open breaker closes at a
number of successes (`successes_of_closing`), and these are successes of its probes if and only if
no call that was admitted earlier is among them. Nothing keeps such a call out: a breaker can close
without the success of a single probe (`closes_without_probe`).

## Key results

- `nodup_succeeded`: a call records one success at most
- `length_succeeded_phase`: what the half-open breaker has counted, call by call
- `successes_of_closing`: the successes that close a breaker
-/

namespace Safeguard

namespace Breaker

/-- What happens to the calls of a breaker, which go by number, and to its clock. -/
inductive CallEvent where
  /-- A call asks for admission. -/
  | begins (id : Nat)
  /-- The outcome of a call is recorded. -/
  | ends (id : Nat) (success : Bool)
  /-- The clock is moved. -/
  | passes (span : Duration)

/-- The move of the breaker. -/
def CallEvent.move : CallEvent → Move
  | begins _ => .attempt
  | ends _ success => .outcome success
  | passes span => .advance span

/-- Events with the states that they found and left. -/
abbrev Story := List (CallEvent × Passage)

namespace Story

/-- The calls that were admitted. Only a refused call leaves the breaker open. -/
def admitted (l : Story) : List Nat :=
  l.filterMap fun
    | (.begins id, p) => if p.after = .opened then none else some id
    | _ => none

/-- The calls that recorded a success. -/
def succeeded (l : Story) : List Nat :=
  l.filterMap fun
    | (.ends id true, _) => some id
    | _ => none

/-- What has happened since the open breaker last let a first probe in, that probe's admission
included. -/
def phase (l : Story) : Story := sinceLast (fun x => x.2.probes) l

end Story

namespace Session

variable (s : Session)

/-- The events with the states that they found and left, in order. -/
def story (s : Session) : List CallEvent → Story
  | [] => []
  | e :: es => (e, s.passage e.move) :: (s.move e.move).story es

/-- The events are those of calls that each ask for admission once, and record one outcome if they
are admitted. Before them the calls `begun` have asked for admission, and the calls `pending` among
these have yet to record their outcomes. -/
def Interleaves : Session → (begun pending : List Nat) → List CallEvent → Prop
  | _, _, _, [] => True
  | s, begun, pending, .begins id :: es =>
    id ∉ begun ∧ (s.move .attempt).Interleaves (id :: begun)
      (if s.breaker.admits s.clock.now then id :: pending else pending) es
  | s, begun, pending, .ends id success :: es =>
    id ∈ pending ∧ (s.move (.outcome success)).Interleaves begun (pending.erase id) es
  | s, begun, pending, .passes span :: es => (s.move (.advance span)).Interleaves begun pending es

instance decidableInterleaves : (s : Session) → (begun pending : List Nat) →
    (es : List CallEvent) → Decidable (s.Interleaves begun pending es)
  | _, _, _, [] => .isTrue trivial
  | s, begun, pending, .begins id :: es =>
    have := decidableInterleaves (s.move .attempt) (id :: begun)
      (if s.breaker.admits s.clock.now then id :: pending else pending) es
    inferInstanceAs (Decidable (id ∉ begun ∧ _))
  | s, begun, pending, .ends id success :: es =>
    have := decidableInterleaves (s.move (.outcome success)) begun (pending.erase id) es
    inferInstanceAs (Decidable (id ∈ pending ∧ _))
  | s, begun, pending, .passes span :: es =>
    decidableInterleaves (s.move (.advance span)) begun pending es

/-- A story without its events is the history of their moves. -/
private theorem map_snd_story (es : List CallEvent) :
    (s.story es).map (·.2) = s.history (es.map CallEvent.move) := by
  induction es generalizing s with
  | nil => rfl
  | cons e es ih => exact congrArg (s.passage e.move :: ·) (ih _)

/-- A story tells the moves of its events. -/
private theorem move_of_mem_story {es : List CallEvent} {x : CallEvent × Passage}
    (hx : x ∈ s.story es) :
    x.2.move = x.1.move := by
  induction es generalizing s with
  | nil => cases hx
  | cons e es ih =>
    rcases List.mem_cons.1 hx with rfl | hx
    · rfl
    · exact ih _ hx

/-- A call records one success at most: one that has yet to record its outcome, or one that has yet
to begin. -/
theorem nodup_succeeded {begun pending : List Nat} {es : List CallEvent}
    (hpending : pending.Nodup) (hsub : pending ⊆ begun) (h : s.Interleaves begun pending es) :
    (s.story es).succeeded.Nodup ∧
      ∀ id ∈ (s.story es).succeeded, id ∈ pending ∨ id ∉ begun := by
  -- The second part carries the induction: a call that has ended is neither pending nor new.
  induction es generalizing s begun pending with
  | nil => exact ⟨List.nodup_nil, nofun⟩
  | cons e es ih =>
    cases e with
    | passes span => exact ih _ hpending hsub h
    | begins id =>
      obtain ⟨hnew, hrest⟩ := h
      have hid : id ∉ pending := fun hmem => hnew (hsub hmem)
      have hnodup : (if s.breaker.admits s.clock.now then id :: pending else pending).Nodup := by
        split
        · exact List.nodup_cons.2 ⟨hid, hpending⟩
        · exact hpending
      have hsub' : (if s.breaker.admits s.clock.now then id :: pending else pending) ⊆
          id :: begun := by
        split
        · exact List.cons_subset_cons id hsub
        · exact fun j hj => List.mem_cons_of_mem _ (hsub hj)
      obtain ⟨hsucceeded, hmem⟩ := ih _ hnodup hsub' hrest
      refine ⟨hsucceeded, fun j hj => ?_⟩
      rcases hmem j hj with hj | hj
      · split at hj
        · rcases List.mem_cons.1 hj with rfl | hj
          · exact .inr hnew
          · exact .inl hj
        · exact .inl hj
      · exact .inr fun hbegun => hj (List.mem_cons_of_mem _ hbegun)
    | ends id success =>
      obtain ⟨hid, hrest⟩ := h
      obtain ⟨hsucceeded, hmem⟩ := ih _ (hpending.erase id)
        (fun j hj => hsub (List.mem_of_mem_erase hj)) hrest
      have hothers : ∀ j ∈ ((s.move (.outcome success)).story es).succeeded,
          j ≠ id ∧ (j ∈ pending ∨ j ∉ begun) := by
        intro j hj
        rcases hmem j hj with hj | hj
        · exact ⟨fun heq => hpending.not_mem_erase (heq ▸ hj), .inl (List.mem_of_mem_erase hj)⟩
        · exact ⟨fun heq => hj (heq ▸ hsub hid), .inr hj⟩
      cases success with
      | false => exact ⟨hsucceeded, fun j hj => (hothers j hj).2⟩
      | true =>
        refine ⟨List.nodup_cons.2 ⟨fun hmem => (hothers id hmem).1 rfl, hsucceeded⟩, fun j hj => ?_⟩
        rcases List.mem_cons.1 hj with rfl | hj
        · exact .inl hid
        · exact (hothers j hj).2

end Session

/-! ## Successes of the half-open breaker -/

/-- The successes of a story, call by call. -/
private theorem length_succeeded {l : Story} (hl : ∀ x ∈ l, x.2.move = x.1.move) :
    l.succeeded.length = recorded true (l.map (·.2)) := by
  induction l with
  | nil => rfl
  | cons x l ih =>
    obtain ⟨e, p⟩ := x
    have hp : p.move = e.move := hl _ List.mem_cons_self
    have hrest := ih fun x hx => hl x (List.mem_cons_of_mem _ hx)
    -- Whether an entry counts on the right depends on its move alone, which both entries share.
    have hrecords : p.records true = decide (e.move = .outcome true) := by
      rw [Passage.records, hp]
    rw [List.map_cons, recorded, List.countP_cons, hrecords, ← recorded, ← hrest]
    cases e with
    | begins id | passes span => simp [Story.succeeded, CallEvent.move]
    | ends id success => cases success <;> simp [Story.succeeded, CallEvent.move]

/-- The last phase of a story of a session is the last phase of its history. -/
private theorem map_snd_phase (s : Session) (es : List CallEvent) :
    (s.story es).phase.map (·.2) = sinceProbing (s.history (es.map CallEvent.move)) := by
  rw [sinceProbing, ← Session.map_snd_story, sinceLast_map]
  rfl

/-- The calls that have recorded a success since the half-open breaker let its first probe in are as
many as the successes that its history counts. -/
theorem length_succeeded_phase (s : Session) (es : List CallEvent) :
    (s.story es).phase.succeeded.length =
      recorded true (sinceProbing (s.history (es.map CallEvent.move))) := by
  rw [← map_snd_phase]
  exact length_succeeded fun x hx => s.move_of_mem_story ((sinceLast_suffix _ _).subset hx)

/-- The move that closes a half-open breaker without a reset makes up the threshold. -/
private theorem recorded_of_closes {name : String} {policy : BreakerPolicy} {b : Breaker}
    (hb : make name policy = .ok b) {ms : List Move} {m : Move} (hm : m ≠ .reset)
    (hhalf : ((Session.start b).moves ms).breaker.state = .halfOpen)
    (hclosed : ((Session.start b).moves (ms ++ [m])).breaker.state = .closed) :
    ((Session.start b).history (ms ++ [m])).any Passage.probes = true ∧
      recorded true (sinceProbing ((Session.start b).history (ms ++ [m]))) =
        policy.successThreshold.toNat := by
  obtain ⟨hvalid, rfl⟩ := make_eq_ok_iff.1 hb
  have htallied := tallied_moves hvalid name ms
  have hcounted : ((Session.start (fresh name policy)).moves ms).breaker.WellCounted
      ((Session.start (fresh name policy)).moves ms).clock.now :=
    WellCounted.run hvalid (wellCounted_fresh hvalid) _
  have hpolicy : ((Session.start (fresh name policy)).moves ms).breaker.policy = policy :=
    (identity_run _ _).2
  rw [Session.moves_concat, state_move_of_halfOpen htallied hcounted hhalf, hpolicy] at hclosed
  -- Of the moves of a half-open breaker, a success that makes up the threshold is the one that
  -- closes it.
  have hlast : m = .outcome true ∧ recorded true
      (sinceProbing ((Session.start (fresh name policy)).history ms)) + 1 =
        policy.successThreshold.toNat := by
    by_contra hnot
    simp only [hm, false_or, if_neg hnot] at hclosed
    split at hclosed <;> cases hclosed
  -- The closing move is no first probe, so the phase goes on with it.
  have hprobes : (((Session.start (fresh name policy)).moves ms).passage m).probes = false := by
    simp [Session.passage, Passage.probes, hhalf]
  obtain ⟨rfl, hcount⟩ := hlast
  rw [Session.history_concat, List.any_append, (htallied.halfOpen hhalf).2.2, sinceProbing_concat,
    hprobes]
  exact ⟨rfl, by simpa [recorded_concat, Session.passage, Passage.records] using hcount⟩

/-- A half-open breaker closes when as many calls as the threshold says have recorded a success
since it let its first probe in. At least so many of its probes have succeeded if and only if every
one of these calls is a probe. -/
theorem successes_of_closing {name : String} {policy : BreakerPolicy} {b : Breaker}
    (hb : make name policy = .ok b) {events : List CallEvent} {last : CallEvent}
    (hcalls : (Session.start b).Interleaves [] [] (events ++ [last]))
    (hhalf : ((Session.start b).moves (events.map CallEvent.move)).breaker.state = .halfOpen)
    (hclosed : ((Session.start b).moves ((events ++ [last]).map CallEvent.move)).breaker.state =
      .closed) :
    let phase := ((Session.start b).story (events ++ [last])).phase
    (∃ first rest, phase = first :: rest ∧ first.2.probes = true) ∧ phase.succeeded.Nodup ∧
      phase.succeeded.length = policy.successThreshold.toNat ∧
      (policy.successThreshold.toNat ≤ (phase.succeeded.filter (· ∈ phase.admitted)).length ↔
        ∀ id ∈ phase.succeeded, id ∈ phase.admitted) := by
  intro phase
  have hmove : last.move ≠ .reset := by cases last <;> simp [CallEvent.move]
  rw [List.map_append] at hclosed
  obtain ⟨hany, hcount⟩ := recorded_of_closes hb hmove hhalf hclosed
  -- The story has the same moves as the history, so a first probe is in it as well.
  have hstory : ((Session.start b).story (events ++ [last])).any (·.2.probes) = true := by
    rw [← hany, ← List.map_singleton, ← List.map_append, ← Session.map_snd_story, List.any_map]
    rfl
  obtain ⟨first, rest, hphase, hprobes, -⟩ := exists_sinceLast_eq_cons hstory
  have hnodup : phase.succeeded.Nodup :=
    ((sinceLast_suffix _ _).sublist.filterMap _).nodup
      ((Session.start b).nodup_succeeded List.nodup_nil (List.Subset.refl _) hcalls).1
  have hlength : phase.succeeded.length = policy.successThreshold.toNat := by
    rw [← hcount, length_succeeded_phase, List.map_append, List.map_singleton]
  refine ⟨⟨first, rest, hphase, hprobes⟩, hnodup, hlength, ?_⟩
  -- All successes are counted, and those of probes are some of them.
  have hle : (phase.succeeded.filter (· ∈ phase.admitted)).length ≤ phase.succeeded.length :=
    List.length_filter_le ..
  calc policy.successThreshold.toNat ≤ (phase.succeeded.filter (· ∈ phase.admitted)).length
      ↔ (phase.succeeded.filter (· ∈ phase.admitted)).length = phase.succeeded.length := by
        rw [← hlength]
        exact ⟨fun hge => Nat.le_antisymm hle hge, fun heq => Nat.le_of_eq heq.symm⟩
    _ ↔ ∀ id ∈ phase.succeeded, id ∈ phase.admitted := by
        simp only [List.length_filter_eq_length_iff, decide_eq_true_eq]

/-- A call that began before the breaker opened is one of the two successes that close it. -/
theorem successes_of_closing_overlapping :
    let b := fresh "db" ⟨1, .ofSeconds 1, 2⟩
    let events : List CallEvent := [.begins 0, .begins 1, .ends 1 false, .passes (.ofSeconds 1),
      .begins 2, .ends 0 true]
    let phase := ((Session.start b).story (events ++ [.ends 2 true])).phase
    make "db" ⟨1, .ofSeconds 1, 2⟩ = .ok b ∧
      (Session.start b).Interleaves [] [] (events ++ [.ends 2 true]) ∧
      phase.succeeded.length = 2 ∧ phase.succeeded = [0, 2] ∧ phase.admitted = [2] := by
  intro b events phase
  have hcalls : (Session.start b).Interleaves [] [] (events ++ [.ends 2 true]) := by
    decide +kernel
  have hb : make "db" ⟨1, .ofSeconds 1, 2⟩ = .ok b := rfl
  obtain ⟨-, -, hlength, -⟩ :=
    successes_of_closing hb hcalls (by decide +kernel) (by decide +kernel)
  exact ⟨hb, hcalls, hlength, by decide +kernel, by decide +kernel⟩

/-- A breaker that one success closes is closed by a call that began before the breaker opened,
while its only probe is still running. -/
theorem closes_without_probe :
    ¬ ∀ (name : String) (policy : BreakerPolicy) (b : Breaker) (events : List CallEvent)
        (last : CallEvent), make name policy = .ok b →
      (Session.start b).Interleaves [] [] (events ++ [last]) →
      ((Session.start b).moves (events.map CallEvent.move)).breaker.state = .halfOpen →
      ((Session.start b).moves ((events ++ [last]).map CallEvent.move)).breaker.state = .closed →
      policy.successThreshold.toNat ≤
        (((Session.start b).story (events ++ [last])).phase.succeeded.filter
          (· ∈ ((Session.start b).story (events ++ [last])).phase.admitted)).length := by
  intro h
  have hprobe := h "db" ⟨1, .ofSeconds 1, 1⟩ (fresh "db" ⟨1, .ofSeconds 1, 1⟩)
    [.begins 0, .begins 1, .ends 1 false, .passes (.ofSeconds 1), .begins 2] (.ends 0 true) rfl
    (by decide +kernel) (by decide +kernel) (by decide +kernel)
  revert hprobe
  decide +kernel

end Breaker

end Safeguard
