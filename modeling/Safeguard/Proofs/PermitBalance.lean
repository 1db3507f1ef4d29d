import Safeguard.Layer.Protection
import Safeguard.Proofs.BulkheadPermit
import Safeguard.Proofs.FloorMoments

/-!
# The permits of a bulkhead balance

Permits of a bulkhead are taken by calls and outside of any call, and come back when calls return,
fail, panic or are dropped. `Floor.Balanced` is the invariant: as many permits are out as calls wait
and holders have one. Every step keeps it, whatever the calls do meanwhile.

## Key results

- `kept_balanced`: time, outcomes from outside and drops keep the balance
- `Balanced.hold`, `Balanced.giveBack`: permits outside of any call
- `permits_accounted`: what a bulkhead shows at every moment of every history
-/

namespace Safeguard

namespace Bulkhead

/-- A bulkhead with every permit left, after it has answered some requests: `true` for each that got
a permit. -/
def answered (name : String) (policy : BulkheadPolicy) (answers : List Bool) : Bulkhead :=
  { fresh name policy with
    totalAdmitted := .ofNat (answers.count true)
    totalRefused := .ofNat (answers.count false) }

variable {name : String} {policy : BulkheadPolicy} {answers : List Bool}

/-- One more request gets a permit. -/
private theorem answered_true : answered name policy (answers ++ [true]) =
    { answered name policy answers with
      totalAdmitted := (answered name policy answers).totalAdmitted + 1 } := by
  simp [answered, UInt64.ofNat_add]

/-- One more request is refused. -/
private theorem answered_false : answered name policy (answers ++ [false]) =
    { answered name policy answers with
      totalRefused := (answered name policy answers).totalRefused + 1 } := by
  simp [answered, UInt64.ofNat_add]

end Bulkhead

namespace Floor

open Activity (Holds)

variable {β ρ : Type} {i : Nat} {b b' : Bulkhead} {R : ρ → Prop} {hand : Nat}
  {done : List (String × Report ρ)} {f : Floor β ρ}

/-- Of bulkhead `i`, which is `b` apart from its free permits, there are as many permits out as
calls wait and holders have one, and `hand` more. Every call that came to its end after those in
`done` was brought there by itself with `R`, or was dropped. -/
structure Balanced (i : Nat) (b : Bulkhead) (R : ρ → Prop) (done : List (String × Report ρ))
    (hand : Nat) (f : Floor β ρ) : Prop where
  lends : f.world.Lends i b (f.jobs.length + f.permits.length + hand)
  holds : ∀ j ∈ f.jobs, j.pause.leaves.count i = 1 ∧ ∀ wake, (j.next wake).Holds i R
  holders : (f.permits.map (·.1)).Nodup
  numbers : ∀ p ∈ f.permits, p.2 = i
  brings : ∃ more, f.completed = done ++ more ∧
    ∀ p ∈ more, ∀ ending ∈ p.2.ending, ending.Brings R

namespace Balanced

/-- The world may change as long as the permits that are out are accounted for. -/
theorem inWorld (h : Balanced i b R done hand f) {w : World} {m : Nat}
    (hlends : w.Lends i b' (f.jobs.length + f.permits.length + m)) :
    Balanced i b' R done m { f with world := w } :=
  ⟨hlends, h.holds, h.holders, h.numbers, h.brings⟩

/-- A report keeps the balance, if the call came to its end by itself with `R` or was dropped. -/
theorem complete (h : Balanced i b R done hand f) (id : String) {report : Report ρ}
    (hreport : ∀ ending ∈ report.ending, ending.Brings R) :
    Balanced i b R done hand (f.complete id report) := by
  obtain ⟨more, hmore, hbrings⟩ := h.brings
  refine ⟨h.lends, h.holds, h.holders, h.numbers, more ++ [(id, report)], ?_, fun p hp => ?_⟩
  · simp only [Floor.complete, hmore, List.append_assoc]
  · rcases List.mem_append.1 hp with hp | hp
    · exact hbrings p hp
    · rw [List.mem_singleton.1 hp]
      exact hreport

/-- Without a call that waits, its permit is in hand. -/
theorem without (h : Balanced i b R done 0 f) {j : Job β ρ} {others : List (Job β ρ)}
    (hperm : f.jobs.Perm (j :: others)) : Balanced i b R done 1 { f with jobs := others } := by
  have hlength : f.jobs.length = others.length + 1 := hperm.length_eq
  have hlends := h.lends
  rw [hlength, show others.length + 1 + f.permits.length + 0 =
    others.length + f.permits.length + 1 by omega] at hlends
  exact ⟨hlends, fun k hk => h.holds k (hperm.mem_iff.2 (List.mem_cons_of_mem _ hk)), h.holders,
    h.numbers, h.brings⟩

/-- A call in the background goes on with the permit in hand: it takes it to its next wait, or gives
it back. -/
theorem advance (h : Balanced i b R done hand f) {id : String} {began : Nat} {record : Record}
    {fed : List (Outcome β)} {x : Activity β ρ}
    (hgets : Holds.Gets i b' (f.jobs.length + f.permits.length) R
      (x.advance fed ⟨f.world, record⟩).1 (x.advance fed ⟨f.world, record⟩).2.2.world) :
    Balanced i b' R done 0 (f.advance id began record fed x) := by
  unfold Floor.advance
  generalize x.advance fed ⟨f.world, record⟩ = result at hgets ⊢
  obtain ⟨pause, fed', s⟩ := result
  dsimp only at hgets ⊢
  -- The permit in hand goes with the call if it waits again, and is back if the call has ended.
  cases hgets with
  | waiting hlends hleaves hholds =>
    refine ⟨?_, fun j hj => ?_, h.holders, h.numbers, h.brings⟩
    · show s.world.Lends i b' ((f.jobs ++ [_]).length + f.permits.length + 0)
      rw [List.length_append, List.length_singleton,
        show f.jobs.length + 1 + f.permits.length + 0 = f.jobs.length + f.permits.length + 1 by
          omega]
      exact hlends
    · rcases List.mem_append.1 hj with hj | hj
      · exact h.holds j hj
      · obtain rfl := List.mem_singleton.1 hj
        exact ⟨hleaves, hholds⟩
  | ended hlends hbrings =>
    refine (h.inWorld hlends).complete id fun ending hending => ?_
    obtain rfl : _ = ending := Option.some.inj hending
    exact hbrings

/-- A call begins that takes a permit before its first wait. -/
theorem start (h : Balanced i b R done 0 f) {x y : Activity β ρ} {s : Scene}
    (hreaches : x.Reaches ⟨f.world, .empty⟩ y s)
    (hlends : s.world.Lends i b' (f.jobs.length + f.permits.length + 1)) (hholds : y.Holds i R)
    (id : String) : Balanced i b' R done 0 (f.start id x) := by
  refine h.advance ?_
  rw [hreaches.advance_eq]
  exact hholds.advance [] s hlends

end Balanced

/-- A call goes on, however its wait has ended. -/
theorem Balanced.wake (h : Balanced i b R done 0 f) {j : Job β ρ} {others : List (Job β ρ)}
    (hperm : f.jobs.Perm (j :: others)) (wake : Wake β j.pause.limit j.pause.gated) :
    Balanced i b R done 0 ({ f with jobs := others }.wake j wake) := by
  have hrest := h.without hperm
  have hholds := (h.holds j (hperm.mem_iff.2 List.mem_cons_self)).2 wake
  exact hrest.advance (hholds.advance j.fed ⟨f.world, j.record⟩ hrest.lends)

/-- Time, outcomes from outside and drops keep the balance. -/
theorem kept_balanced : KeptExactly (Balanced (β := β) i b R done 0) where
  atTime f t h := ⟨h.lends, h.holds, h.holders, h.numbers, h.brings⟩
  elapsed _ _ _ h hperm _ _ := h.wake hperm _
  opened _ _ _ h hperm _ _ _ := h.wake hperm _
  fed f id outcome h := by
    refine ⟨?_, fun j hj => ?_, h.holders, h.numbers, h.brings⟩
    · show f.world.Lends i b ((f.jobs.map _).length + f.permits.length + 0)
      rw [List.length_map]
      exact h.lends
    · obtain ⟨k, hk, rfl⟩ := List.mem_map.1 hj
      -- An outcome that is kept for later changes nothing of what the call holds.
      by_cases hid : k.id = id
      · rw [if_pos hid]
        exact h.holds k hk
      · rw [if_neg hid]
        exact h.holds k hk
  drop f j others id h hperm := by
    have hrest := h.without hperm
    -- A call that is dropped leaves the bulkhead once, so its permit is back.
    have hcount := (h.holds j (hperm.mem_iff.2 List.mem_cons_self)).1
    have hlends : f.world.Lends i b (others.length + f.permits.length + j.pause.leaves.count i) :=
      hcount.symm ▸ hrest.lends
    exact (hrest.inWorld (m := 0) hlends.leaves).complete id nofun

/-- Time keeps the balance, whenever the calls were counted last. -/
private theorem kept_balanced_since :
    KeptInTime fun g : Floor β ρ => ∃ done, Balanced i b R done 0 g where
  atTime f t h := h.imp fun _ h => kept_balanced.atTime f t h
  elapsed _ _ _ h hperm _ _ := h.imp fun _ h => h.wake hperm _

/-! ## Permits outside of any call -/

/-- The holder of a permit is on the list once. -/
private theorem length_filter_of_lookup {l : List (String × Nat)} {k : String} {v : Nat}
    (hnodup : (l.map (·.1)).Nodup) (hlookup : l.lookup k = some v) :
    (l.filter (·.1 ≠ k)).length + 1 = l.length := by
  -- The holder stands between others, and the filter keeps all of these.
  obtain ⟨before, after, rfl, hne⟩ := List.lookup_eq_some_iff.1 hlookup
  rw [List.map_append, List.map_cons, List.nodup_append, List.nodup_cons] at hnodup
  obtain ⟨-, ⟨hnot, -⟩, -⟩ := hnodup
  have hbefore : before.filter (·.1 ≠ k) = before := by
    refine List.filter_eq_self.2 fun p hp => ?_
    have hp : k ≠ p.1 := by simpa using hne p hp
    exact decide_eq_true hp.symm
  have hafter : after.filter (·.1 ≠ k) = after := by
    refine List.filter_eq_self.2 fun p hp => ?_
    exact decide_eq_true fun heq => hnot (List.mem_map.2 ⟨p, hp, heq⟩)
  rw [List.filter_append, List.filter_cons_of_neg (by simp), hbefore, hafter]
  simp only [List.length_append, List.length_cons]
  omega

/-- A permit that is given back was out, and its holder has none any more. -/
theorem Balanced.giveBack (h : Balanced i b R done hand f) (holder : String) :
    Balanced i b R done hand (f.giveBack holder).2 ∧
      ∀ p ∈ (f.giveBack holder).2.permits, p.1 ≠ holder := by
  unfold Floor.giveBack
  split
  -- Who holds no permit gives none back.
  · next hnone =>
    refine ⟨h, fun p hp heq => ?_⟩
    have := List.lookup_eq_none_iff.1 hnone p hp
    simp [heq] at this
  · next i' hlookup =>
    obtain ⟨before, after, hpermits, -⟩ := List.lookup_eq_some_iff.1 hlookup
    obtain rfl : i' = i := h.numbers (holder, i') (by simp [hpermits])
    have hlength := length_filter_of_lookup h.holders hlookup
    have hlends := h.lends
    rw [← hlength, show f.jobs.length + ((f.permits.filter (·.1 ≠ holder)).length + 1) + hand =
      f.jobs.length + (f.permits.filter (·.1 ≠ holder)).length + hand + 1 by omega] at hlends
    refine ⟨⟨hlends.leave, h.holds, ?_, fun p hp => h.numbers p (List.mem_filter.1 hp).1,
      h.brings⟩, fun p hp => ?_⟩
    · exact h.holders.sublist (List.filter_sublist.map _)
    · simpa using (List.mem_filter.1 hp).2

/-- A permit is asked for outside of any call. -/
theorem Balanced.hold (h : Balanced i b R done 0 f) (holder : String) :
    f.jobs.length + f.permits.length < b.policy.maxConcurrent.toNat ∧
        (f.hold holder i).1 = true ∧
        Balanced i { b with totalAdmitted := b.totalAdmitted + 1 } R done 0 (f.hold holder i).2 ∨
      f.jobs.length + f.permits.length = b.policy.maxConcurrent.toNat ∧
        (f.hold holder i).1 = false ∧
        (f.hold holder i).2 = { f with world := (f.world.enter i).2 } ∧
        Balanced i { b with totalRefused := b.totalRefused + 1 } R done 0 (f.hold holder i).2 := by
  unfold Floor.hold
  rcases h.lends.enter with ⟨hlt, hanswer, hlends, -⟩ | ⟨hfull, hanswer, hlends, -⟩
  · -- The new permit is in hand while the old one of the same holder is given back.
    generalize f.world.enter i = entered at hanswer hlends ⊢
    obtain ⟨answer, w⟩ := entered
    obtain rfl : answer = .ok () := hanswer
    obtain ⟨hback, hnot⟩ := (h.inWorld (m := 1) hlends).giveBack holder
    refine .inl ⟨hlt, rfl, ?_, hback.holds, ?_, ?_, hback.brings⟩
    · have hlends := hback.lends
      rw [Nat.add_assoc] at hlends
      exact hlends
    · exact List.nodup_cons.2 ⟨fun hmem => by
        obtain ⟨p, hp, heq⟩ := List.mem_map.1 hmem
        exact hnot p hp heq, hback.holders⟩
    · intro p hp
      rcases List.mem_cons.1 hp with rfl | hp
      · rfl
      · exact hback.numbers p hp
  · generalize f.world.enter i = entered at hanswer hlends ⊢
    obtain ⟨answer, w⟩ := entered
    obtain rfl : answer = .error _ := hanswer
    exact .inr ⟨hfull, rfl, rfl, h.inWorld hlends⟩

/-! ## Requests -/

variable {γ ε : Type} {name : String} {policy : BulkheadPolicy} {given : List Bool}

/-- A result that is not the refusal of a bulkhead. -/
def LetIn (result : Except (Fault ε) γ) : Prop :=
  ∀ name limit, result ≠ .error (.bulkheadFull name limit)

/-- Whether a report says that a bulkhead refused the call. -/
def turnedAway (r : Report (Except (Fault ε) γ)) : Bool :=
  match r.ending with
  | some (.returned (.error (.bulkheadFull _ _))) => true
  | _ => false

/-- A call that was let in is not reported as turned away. -/
theorem turnedAway_eq_false {r : Report (Except (Fault ε) γ)}
    (h : ∀ ending ∈ r.ending, ending.Brings LetIn) : turnedAway r = false := by
  unfold turnedAway
  split
  · next n limit heq => exact absurd rfl (h _ heq _ rfl n limit)
  · rfl

/-- How a step that asks for a permit is answered: a call that is made is let in if it was not
turned away at once. -/
def answer? (f : Floor β (Except (Fault ε) γ)) : Step β (Except (Fault ε) γ) → Option Bool
  | .start id x =>
    some (((f.start id x).completed.drop f.completed.length).all fun (_, r) => !turnedAway r)
  | .hold holder i => some (f.hold holder i).1
  | _ => none

/-- The answers of a history, in order. -/
def answers (f : Floor β (Except (Fault ε) γ)) : List (Step β (Except (Fault ε) γ)) → List Bool
  | [] => []
  | s :: history => (f.answer? s).toList ++ answers (f.step s).2 history

/-- The answer of the last step comes last. -/
private theorem answers_concat (f : Floor β (Except (Fault ε) γ)) (history) (s) :
    f.answers (history ++ [s]) = f.answers history ++ ((f.run history).answer? s).toList := by
  -- By induction on the history: its first answer is the same on both sides.
  induction history generalizing f with
  | nil => simp [answers, run]
  | cons t history ih =>
    have hrest := ih (f.step t).2
    simp only [List.cons_append, answers, List.append_assoc, hrest]
    rfl

/-- What can happen around bulkhead `i`: calls are made under it, whose operations leave it alone,
and its permits are taken outside of any call and given back; time, outcomes from outside and drops
come in between. -/
def Concerns (i : Nat) : Step β (Except (Fault ε) γ) → Prop
  | .start _ x => ∃ operation : Activity β (Except ε γ),
      operation.Meets (Effect.Aside i) (fun _ => True) ∧ x = underBulkhead i operation
  | .hold _ j => j = i
  | _ => True

/-- The report on a call that was turned away: no attempt was made and no time has passed. -/
def refusal (name : String) (policy : BulkheadPolicy) : Report (Except (Fault ε) γ) :=
  ⟨some (.returned (.error (.bulkheadFull name policy.maxConcurrent))), [], 0, some 0⟩

/-- What a step comes to whose request the bulkhead refuses: the bulkhead has been asked, and a call
that was made is reported without an attempt. -/
def Refused (name : String) (policy : BulkheadPolicy) (i : Nat)
    (f g : Floor β (Except (Fault ε) γ)) : Step β (Except (Fault ε) γ) → Prop
  | .start id _ =>
    g = ({ f with world := (f.world.enter i).2 } : Floor β _).complete id (refusal name policy)
  | _ => g = { f with world := (f.world.enter i).2 }

variable {f : Floor β (Except (Fault ε) γ)} {done : List (String × Report (Except (Fault ε) γ))}

/-- The calls that came to their end before do not matter to the balance. -/
theorem Balanced.sinceNow {R : Except (Fault ε) γ → Prop} (h : Balanced i b R done hand f) :
    Balanced i b R f.completed hand f :=
  ⟨h.lends, h.holds, h.holders, h.numbers, [], by simp, nofun⟩

/-- A call under the bulkhead is let in, or is turned away and changes nothing but the bulkhead's
count. -/
theorem Balanced.call (h : Balanced i b LetIn done 0 f) {operation : Activity β (Except ε γ)}
    (hop : operation.Meets (Effect.Aside i) fun _ => True) (id : String) :
    f.jobs.length + f.permits.length < b.policy.maxConcurrent.toNat ∧
        Balanced i { b with totalAdmitted := b.totalAdmitted + 1 } LetIn f.completed 0
          (f.start id (underBulkhead i operation)) ∨
      f.jobs.length + f.permits.length = b.policy.maxConcurrent.toNat ∧
        f.start id (underBulkhead i operation) =
          ({ f with world := (f.world.enter i).2 } : Floor β _).complete id
            (refusal b.name b.policy) ∧
        Balanced i { b with totalRefused := b.totalRefused + 1 } LetIn done 0
          { f with world := (f.world.enter i).2 } := by
  rcases h.lends.enter with ⟨hlt, hanswer, hlends, -⟩ | ⟨hfull, hanswer, hlends, -⟩
  · have hreaches : (underBulkhead i operation).Reaches ⟨f.world, .empty⟩ _
        ⟨(f.world.enter i).2, .empty⟩ := .answered hanswer (.refl _ _)
    -- An error of the operation is never taken for a refusal.
    have hholds : ((operation.map fun result => result.mapError Fault.operation).holding i).Holds i
        LetIn := by
      refine Holds.of_meets (hop.map fun result _ n limit => ?_)
      cases result <;> simp
    exact .inl ⟨hlt, h.sinceNow.start hreaches hlends hholds id⟩
  -- Turned away, the call is over with its first effect, at the time at which it was made.
  · have hreaches : (underBulkhead i operation).Reaches ⟨f.world, .empty⟩ _
        ⟨(f.world.enter i).2, .empty⟩ := .answered hanswer (.refl _ _)
    refine .inr ⟨hfull, ?_, h.inWorld hlends⟩
    rw [hreaches.start_eq]
    have hnow : (f.world.enter i).2.now = f.world.now := World.now_enter
    simp [refusal, Record.report, Record.empty, Ending.returned?, Rejection.fault, hnow]

/-- What one step does for bulkhead `i`: the balance is kept, and a request is refused if and only
if every permit is out. -/
structure Booked (name : String) (policy : BulkheadPolicy) (given : List Bool) (i : Nat)
    (f : Floor β (Except (Fault ε) γ)) (s : Step β (Except (Fault ε) γ)) : Prop where
  balanced : Balanced i (.answered name policy (given ++ (f.answer? s).toList)) LetIn
    (f.step s).2.completed 0 (f.step s).2
  refused_iff : ∀ answer ∈ f.answer? s,
    answer = false ↔ f.jobs.length + f.permits.length = policy.maxConcurrent.toNat
  refused : f.answer? s = some false → Refused name policy i f (f.step s).2 s

/-- A step that asks for nothing. -/
private theorem Booked.of_none {s : Step β (Except (Fault ε) γ)} (hnone : f.answer? s = none)
    (h : Balanced i (.answered name policy given) LetIn done 0 (f.step s).2) :
    Booked name policy given i f s := by
  refine ⟨?_, by simp [hnone], by simp [hnone]⟩
  rw [hnone, Option.toList_none, List.append_nil]
  exact h.sinceNow

/-- A step whose request is granted. -/
private theorem Booked.of_granted {s : Step β (Except (Fault ε) γ)}
    (hanswer : f.answer? s = some true)
    (hlt : f.jobs.length + f.permits.length < policy.maxConcurrent.toNat)
    (h : Balanced i (.answered name policy (given ++ [true])) LetIn done 0 (f.step s).2) :
    Booked name policy given i f s := by
  refine ⟨?_, fun answer ha => ?_, by simp [hanswer]⟩
  · rw [hanswer]
    exact h.sinceNow
  · obtain rfl : true = answer := Option.some.inj (hanswer.symm.trans ha)
    exact ⟨nofun, fun hfull => absurd hfull (Nat.ne_of_lt hlt)⟩

/-- A step whose request is refused. -/
private theorem Booked.of_refused {s : Step β (Except (Fault ε) γ)}
    (hanswer : f.answer? s = some false)
    (hfull : f.jobs.length + f.permits.length = policy.maxConcurrent.toNat)
    (hrefused : Refused name policy i f (f.step s).2 s)
    (h : Balanced i (.answered name policy (given ++ [false])) LetIn (f.step s).2.completed 0
      (f.step s).2) : Booked name policy given i f s := by
  refine ⟨?_, fun answer ha => ?_, fun _ => hrefused⟩
  · rw [hanswer]
    exact h
  · obtain rfl : false = answer := Option.some.inj (hanswer.symm.trans ha)
    exact ⟨fun _ => hfull, fun _ => rfl⟩

/-- One step, whatever it is. -/
theorem Balanced.step (h : Balanced i (.answered name policy given) LetIn done 0 f)
    {s : Step β (Except (Fault ε) γ)} (hs : Concerns i s) : Booked name policy given i f s := by
  cases s with
  | start id x =>
    obtain ⟨operation, hop, rfl⟩ := hs
    rcases h.call hop id with ⟨hlt, hafter⟩ | ⟨hfull, hstart, hafter⟩
    · rw [← Bulkhead.answered_true] at hafter
      refine .of_granted ?_ hlt hafter
      -- Whatever the call has come to by now, it was not turned away.
      obtain ⟨more, hmore, hbrings⟩ := hafter.brings
      have hin : ∀ p ∈ more, (!turnedAway p.2) = true := by
        intro p hp
        rw [turnedAway_eq_false (hbrings p hp)]
        rfl
      simpa [answer?, hmore] using hin
    · rw [← Bulkhead.answered_false] at hafter
      refine .of_refused ?_ hfull hstart ?_
      · simp [answer?, hstart, Floor.complete, turnedAway, refusal]
      · show Balanced i _ LetIn (f.start id _).completed 0 (f.start id _)
        rw [hstart]
        exact ⟨hafter.lends, hafter.holds, hafter.holders, hafter.numbers, [], by simp,
          List.forall_mem_nil _⟩
  | hold holder j =>
    obtain rfl : j = i := hs
    rcases h.hold holder with ⟨hlt, hanswer, hafter⟩ | ⟨hfull, hanswer, hworld, hafter⟩
    · rw [← Bulkhead.answered_true] at hafter
      exact .of_granted (congrArg some hanswer) hlt hafter
    · rw [← Bulkhead.answered_false] at hafter
      exact .of_refused (congrArg some hanswer) hfull hworld hafter.sinceNow
  | feed id outcome => exact .of_none rfl (kept_balanced.feed h id outcome)
  | drop id => exact .of_none rfl (kept_balanced.dropped h id)
  | sleep d => exact .of_none rfl (kept_balanced.toKeptInTime.runUntil _ h)
  | advance span =>
    have hkept : Balanced i (.answered name policy given) LetIn done 0
        (f.step (.advance span)).2 := by
      simp only [Floor.step]
      split
      · exact ⟨h.lends, h.holds, h.holders, h.numbers, h.brings⟩
      · exact h
    exact .of_none rfl hkept
  | giveBack holder => exact .of_none rfl (h.giveBack holder).1

/-- What the bulkhead tells when it is asked: a refusal, and nothing else. -/
theorem Balanced.told (h : Balanced i (.answered name policy given) LetIn done 0 f)
    {s : Step β (Except (Fault ε) γ)} (hbooked : Booked name policy given i f s) {answer : Bool}
    (ha : answer ∈ f.answer? s) :
    Notice.signals (f.world.enter i).2.notices = Notice.signals f.world.notices ++
      if f.world.listening && !answer then [.bulkheadRejection name] else [] := by
  rcases h.lends.enter with ⟨hlt, -, -, hjournal⟩ | ⟨hfull, -, -, hsignals⟩
  -- A permit is free, so the answer was yes, and nothing is told.
  · have hyes : answer = true := by
      cases answer with
      | true => rfl
      | false => exact absurd ((hbooked.refused_iff false ha).1 rfl) (Nat.ne_of_lt hlt)
    have hnotices : (f.world.enter i).2.notices = f.world.notices := by
      rw [World.notices, hjournal, World.notices]
    simp [hyes, hnotices]
  · obtain rfl : answer = false := (hbooked.refused_iff answer ha).2 hfull
    rw [hsignals]
    simp [Bulkhead.answered, Bulkhead.fresh]

/-! ## Histories -/

/-- What a bulkhead shows that has given some answers and has `out` permits out. -/
structure Accounted (name : String) (policy : BulkheadPolicy) (given : List Bool) (out : Nat)
    (b : Bulkhead) : Prop where
  name_eq : b.name = name
  policy_eq : b.policy = policy
  /-- The free permits are never more than all, so the permits in flight are counted right. -/
  available_le : b.available ≤ policy.maxConcurrent
  inFlight : b.inFlight.toNat = out
  inFlight_le : b.inFlight ≤ policy.maxConcurrent
  sum : b.stats.inFlight.toNat + b.stats.available.toNat = b.stats.maxConcurrent.toNat
  admitted : b.stats.totalAdmitted = .ofNat (given.count true)
  refused : b.stats.totalRefused = .ofNat (given.count false)

private theorem Balanced.accounted (h : Balanced i (.answered name policy given) LetIn done 0 f) :
    ∃ b, f.world.bulkheads[i]? = some b ∧
      Accounted name policy given (f.jobs.length + f.permits.length) b := by
  obtain ⟨free, hb, hsum⟩ := h.lends
  replace hsum : free.toNat + (f.jobs.length + f.permits.length + 0) =
    policy.maxConcurrent.toNat := hsum
  -- As many permits are out as are missing from the free ones.
  have hle : free ≤ policy.maxConcurrent := UInt64.le_iff_toNat_le.2 (by omega)
  have hflight : (policy.maxConcurrent - free).toNat =
      policy.maxConcurrent.toNat - free.toNat := UInt64.toNat_sub_of_le _ _ hle
  refine ⟨_, hb, rfl, rfl, hle, ?_, ?_, ?_, rfl, rfl⟩
  · show (policy.maxConcurrent - free).toNat = _
    omega
  · show policy.maxConcurrent - free ≤ policy.maxConcurrent
    rw [UInt64.le_iff_toNat_le]
    omega
  · show (policy.maxConcurrent - free).toNat + free.toNat = policy.maxConcurrent.toNat
    omega

/-- A history keeps the balance. -/
private theorem balanced_run (h : Balanced i (.answered name policy given) LetIn done 0 f)
    {history : List (Step β (Except (Fault ε) γ))} (hhistory : ∀ s ∈ history, Concerns i s) :
    Balanced i (.answered name policy (given ++ f.answers history)) LetIn
      (f.run history).completed 0 (f.run history) := by
  induction history generalizing f given done with
  | nil => simpa [answers, run] using h.sinceNow
  | cons s history ih =>
    have hstep := (h.step (hhistory s List.mem_cons_self)).balanced
    have hrest := ih hstep fun t ht => hhistory t (List.mem_cons_of_mem _ ht)
    rw [List.append_assoc] at hrest
    exact hrest

/-- A bulkhead that is new in its world balances. -/
private theorem balanced_ofWorld (w : World) (name : String) (policy : BulkheadPolicy) :
    Balanced w.bulkheads.length (.answered name policy []) LetIn []
      0 (ofWorld (w.addBulkhead (.fresh name policy)).2 : Floor β (Except (Fault ε) γ)) := by
  have hlast : (w.bulkheads ++ [Bulkhead.fresh name policy])[w.bulkheads.length]? =
      some (.fresh name policy) := List.getElem?_concat_length
  exact ⟨World.lends_fresh hlast, nofun, .nil, nofun, [], rfl, nofun⟩

/-- The books of a bulkhead. Make a bulkhead with a policy that is in order and take any history of
calls under it and of permits taken and given back outside of calls; the calls may return, fail,
panic, be dropped and be interleaved at their waits in any way. At every moment of the next step the
permits in flight are those of the calls that wait and of the holders outside, never more than the
policy allows, they and the free ones make up all permits, and both totals count the answers. A
request is refused if and only if every permit is in flight when it comes. Then no attempt is made,
and the refusal is told once. -/
theorem permits_accounted (w : World) {name : String} {policy : BulkheadPolicy} {b : Bulkhead}
    (hmake : Bulkhead.make name policy = .ok b) {history : List (Step β (Except (Fault ε) γ))}
    (hhistory : ∀ s ∈ history, Concerns w.bulkheads.length s) :
    let i := w.bulkheads.length
    let f₀ : Floor β (Except (Fault ε) γ) := ofWorld (w.addBulkhead b).2
    let f := f₀.run history
    ∀ s, Concerns i s →
      (∀ g ∈ f.moments s, ∃ b, g.world.bulkheads[i]? = some b ∧
        Accounted name policy (f₀.answers (history ++ [s])) (g.jobs.length + g.permits.length) b ∧
        (g.jobs = [] → g.permits = [] → b.inFlight = 0)) ∧
      ∃ b, f.world.bulkheads[i]? = some b ∧
        Accounted name policy (f₀.answers history) (f.jobs.length + f.permits.length) b ∧
        ∀ answer ∈ f.answer? s,
          (answer = false ↔ b.inFlight = policy.maxConcurrent) ∧
          (answer = false → Refused name policy i f (f.step s).2 s) ∧
          Notice.signals (f.world.enter i).2.notices = Notice.signals f.world.notices ++
            if f.world.listening && !answer then [.bulkheadRejection name] else [] := by
  intro i f₀ f s hs
  obtain ⟨-, rfl⟩ := Bulkhead.make_eq_ok_iff.1 hmake
  have hbalanced : Balanced i (.answered name policy (f₀.answers history)) LetIn f.completed 0 f :=
    balanced_run (balanced_ofWorld w name policy) hhistory
  have hbooked := hbalanced.step hs
  refine ⟨fun g hg => ?_, ?_⟩
  · have hgiven : f₀.answers (history ++ [s]) = f₀.answers history ++ (f.answer? s).toList :=
      answers_concat f₀ history s
    rw [hgiven]
    -- While time passes nobody asks for a permit.
    have hsleep : ∀ d, s = .sleep d → ∃ done, Balanced i
        (.answered name policy (f₀.answers history ++ (f.answer? s).toList)) LetIn done 0 f := by
      rintro d rfl
      exact ⟨_, (List.append_nil (f₀.answers history)).symm ▸ hbalanced⟩
    obtain ⟨done, hmoment⟩ :=
      forall_mem_moments kept_balanced_since s hsleep ⟨_, hbooked.balanced⟩ g hg
    obtain ⟨b, hb, haccounted⟩ := hmoment.accounted
    refine ⟨b, hb, haccounted, fun hjobs hpermits => UInt64.toNat_inj.1 ?_⟩
    rw [haccounted.inFlight, hjobs, hpermits]
    rfl
  · obtain ⟨b, hb, haccounted⟩ := hbalanced.accounted
    refine ⟨b, hb, haccounted, fun answer ha => ⟨?_, fun hno => hbooked.refused (hno ▸ ha), ?_⟩⟩
    · rw [hbooked.refused_iff answer ha, ← haccounted.inFlight]
      exact UInt64.toNat_inj
    · exact hbalanced.told hbooked ha

/-- A call waits for its outcome in a bulkhead of one permit, and a permit is asked for outside. -/
theorem permits_accounted_full :
    let policy : BulkheadPolicy := ⟨1⟩
    let operation : Activity Nat (Except OperationError Nat) := (Script.repeating .gated).operation
    let history := [.start "call" (underBulkhead 0 operation), .hold "outside" 0]
    let f₀ : Floor Nat (Except (Fault OperationError) Nat) :=
      ofWorld ((World.start true).addBulkhead (.fresh "api" policy)).2
    Bulkhead.make "api" policy = .ok (.fresh "api" policy) ∧ (∀ s ∈ history, Concerns 0 s) ∧
      f₀.answers history = [true, false] ∧
      ∃ b, (f₀.run history).world.bulkheads[0]? = some b ∧
        Accounted "api" policy [true, false] 1 b := by
  intro policy operation history f₀
  have hmake : Bulkhead.make "api" policy = .ok (.fresh "api" policy) := rfl
  have hop : operation.Meets (Effect.Aside 0) fun _ => True :=
    (Script.meets_operation _).mono (fun _ h => h.aside 0) fun _ => id
  have hstart : Concerns 0 (.start "call" (underBulkhead 0 operation)) := ⟨operation, hop, rfl⟩
  have hhistory : ∀ s ∈ [Step.start "call" (underBulkhead 0 operation)], Concerns 0 s := by
    simpa using hstart
  have hanswers : f₀.answers history = [true, false] := by decide +kernel
  -- The last step is the next one after the call.
  obtain ⟨b, hb, haccounted, -⟩ := (permits_accounted (World.start true) hmake hhistory
    (.hold "outside" 0) rfl).1 (f₀.run history) (step_mem_moments _ _)
  have hout : (f₀.run history).jobs.length + (f₀.run history).permits.length = 1 := by
    decide +kernel
  rw [hout] at haccounted
  have hall : ∀ s ∈ history, Concerns 0 s := by
    simp only [history, List.forall_mem_cons]
    exact ⟨hstart, rfl, nofun⟩
  exact ⟨hmake, hall, hanswers, b, hb, hanswers ▸ haccounted⟩

end Floor

end Safeguard
