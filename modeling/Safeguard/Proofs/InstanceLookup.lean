import Safeguard.Orchestrator
import Safeguard.Proofs.BreakerOwed

/-!
# Instances under their keys

A call finds the breaker and the bulkhead of its name by their keys, and makes what is not there
yet. `World.Tracks` says which breaker a key stands for; every move of that breaker is seen under
the key.

## Key results

- `Tracks.acquire`, `Tracks.settle`: a call asks for admission and records its outcome
- `findBreaker_expects`: a call finds the breaker that the first call under the key has made
- `findBulkhead_lets`: a call finds a bulkhead, with a permit left if it is a new one
-/

namespace Safeguard

/-! ## The breaker under a key -/

/-- An entry that was put is found. -/
private theorem lookup_putEntry (key : String) (value : Nat) (entries : List (String × Nat)) :
    (putEntry key value entries).lookup key = some value := by
  fun_induction putEntry key value entries with
  | case1 | case2 | case3 => simp
  | case4 k v rest _ hne ih =>
    have hkey : (key == k) = false := by simpa using Ne.symm hne
    simpa only [List.lookup_cons, hkey] using ih

/-- A key stands for the number that was put under it. -/
theorem Directory.find?_insert_self (d : Directory) (key : String) (value : Nat) :
    (d.insert key value).find? key = some value :=
  lookup_putEntry key value d.entries

/-- Other keys keep their entries. -/
private theorem lookup_putEntry_of_ne {k key : String} (hk : k ≠ key) (value : Nat)
    (entries : List (String × Nat)) : (putEntry key value entries).lookup k = entries.lookup k := by
  have hkey : (k == key) = false := by simpa using hk
  fun_induction putEntry key value entries with
  | case1 | case2 => simp [List.lookup_cons, hkey]
  | case3 v rest _ => simp only [List.lookup_cons, hkey]
  | case4 k' v rest _ _ ih => simp only [List.lookup_cons, ih]

/-- Other keys stand for the same numbers as before. -/
theorem Directory.find?_insert_of_ne (d : Directory) {k key : String} (hk : k ≠ key) (value : Nat) :
    (d.insert key value).find? k = d.find? k :=
  lookup_putEntry_of_ne hk value d.entries

namespace World

/-- The breaker under a key has number `i` and is `b`. -/
structure Tracks (key : String) (i : Nat) (b : Breaker) (w : World) : Prop where
  registered : w.registry.breakers.find? key = some i
  breaker : w.breakers[i]? = some b

/-- A call that asks for a breaker under a key gets number `i`, which is `b`: the breaker is there,
or it is made with the policy of this call. -/
def Expects (key : String) (policy : BreakerPolicy) (i : Nat) (b : Breaker) (w : World) : Prop :=
  w.Tracks key i b ∨
    w.registry.breakers.find? key = none ∧ i = w.breakers.length ∧ b = .fresh key policy

variable {key : String} {policy : BreakerPolicy} {i : Nat} {b : Breaker} {w w' : World}

/-- The breaker stays where it is as long as no breaker changes. -/
theorem Tracks.of_sameBreakers (ht : w.Tracks key i b) (h : w.SameBreakers w') :
    w'.Tracks key i b :=
  ⟨h.directory ▸ ht.registered, h.breakers ▸ ht.breaker⟩

/-- What is expected under a key stays so as long as no breaker changes. -/
theorem Expects.of_sameBreakers (he : w.Expects key policy i b) (h : w.SameBreakers w') :
    w'.Expects key policy i b := by
  rcases he with ht | ⟨hnone, rfl, rfl⟩
  · exact .inl (ht.of_sameBreakers h)
  · exact .inr ⟨h.directory ▸ hnone, by rw [h.breakers], rfl⟩

/-- A breaker is found under its key. -/
theorem Tracks.breaker?_eq (ht : w.Tracks key i b) : w.breaker? key = some b := by
  simp [World.breaker?, ht.registered, ht.breaker]

/-- A move of the breaker is seen under its key. -/
theorem Tracks.stepBreaker (ht : w.Tracks key i b) (after : Breaker → Breaker)
    (notices : Breaker → List Notice) :
    (w.stepBreaker i after notices).Tracks key i (after b) ∧
      (w.stepBreaker i after notices).clock = w.clock := by
  obtain ⟨hi, -⟩ := List.getElem?_eq_some_iff.1 ht.breaker
  simp only [World.stepBreaker, ht.breaker]
  refine ⟨⟨ht.registered, ?_⟩, rfl⟩
  show (w.breakers.set i (after b))[i]? = some (after b)
  rw [List.getElem?_set_self hi]

/-- A record is seen under the key. -/
theorem Tracks.settle (ht : w.Tracks key i b) (success : Bool) :
    (w.settle i success).Tracks key i (b.settle w.clock.now success) ∧
      (w.settle i success).clock = w.clock :=
  ht.stepBreaker (·.settle w.clock.now success) (·.settleNotices w.clock.now success)

/-- The breaker answers a call that asks for admission, and its answer is seen under the key. -/
theorem Tracks.acquire (ht : w.Tracks key i b) :
    (w.acquire i).1 = (if b.admits w.clock.now then .ok () else .error (.circuitOpen b.name)) ∧
      (w.acquire i).2.Tracks key i (b.acquire w.clock.now) ∧ (w.acquire i).2.clock = w.clock :=
  ⟨by simp only [World.acquire, ht.breaker],
    ht.stepBreaker (·.acquire w.clock.now) (·.acquireNotices w.clock.now)⟩

/-- The breaker that a call expects is there, or is made. -/
private theorem breakerAt_expects (hvalid : policy.validate = .ok ())
    (he : w.Expects key policy i b) :
    ∃ w', w.breakerAt key key policy = (.ok i, w') ∧ w'.Tracks key i b ∧
      w'.clock = w.clock ∧ w'.bulkheads = w.bulkheads := by
  rcases he with ht | ⟨hnone, rfl, rfl⟩
  · exact ⟨w, by simp only [World.breakerAt, ht.registered], ht, rfl, rfl⟩
  · have hmake : Breaker.make key policy = .ok (.fresh key policy) := by
      simp only [Breaker.make, hvalid]
      rfl
    refine ⟨(w.breakerAt key key policy).2, ?_, ?_⟩
    · simp only [World.breakerAt, hnone, hmake]
      rfl
    · simp only [World.breakerAt, hnone, hmake]
      -- It comes after the others, and its key is new.
      refine ⟨⟨Directory.find?_insert_self _ _ _, ?_⟩, rfl, rfl⟩
      exact List.getElem?_concat_length

/-- A call finds the breaker it expects, and the bulkheads stay as they are. -/
theorem findBreaker_expects (hvalid : policy.validate = .ok ()) (he : w.Expects key policy i b) :
    (w.findBreaker key policy).1 = .ok i ∧ (w.findBreaker key policy).2.Tracks key i b ∧
      (w.findBreaker key policy).2.clock = w.clock ∧
      (w.findBreaker key policy).2.bulkheads = w.bulkheads := by
  -- The lookup after the check is that of the registry, and may be logged.
  obtain ⟨w', hfound, ht, hclock, hbulkheads⟩ := breakerAt_expects hvalid he
  simp only [World.findBreaker, hvalid, hfound]
  split
  · exact ⟨rfl, ht.of_sameBreakers (.tell _ _), hclock, hbulkheads⟩
  · exact ⟨rfl, ht, hclock, hbulkheads⟩

/-! ## The bulkhead under a key -/

/-- Whether the bulkhead of a number, if there is one, has a permit left. -/
def lets (w : World) (j : Nat) : Bool := (w.bulkheads[j]?).all (·.admits)

/-- A bulkhead that is made has a permit left. -/
private theorem bulkheadAt_lets (w : World) (key : String) {policy : BulkheadPolicy}
    (hvalid : policy.validate = .ok ()) :
    ∃ j w', w.bulkheadAt key key policy = (.ok j, w') ∧
      w'.lets j = (w.bulkhead? key).all (·.admits) := by
  cases hfind : w.registry.bulkheads.find? key with
  | some j =>
    refine ⟨j, w, by simp only [World.bulkheadAt, hfind], ?_⟩
    simp [World.lets, World.bulkhead?, hfind]
  | none =>
    have hmake : Bulkhead.make key policy = .ok (.fresh key policy) := by
      simp only [Bulkhead.make, hvalid]
      rfl
    -- A policy without permits is not in order.
    have hpermits : policy.maxConcurrent ≠ 0 := by
      intro hzero
      simp [BulkheadPolicy.validate, hzero] at hvalid
    refine ⟨w.bulkheads.length, (w.bulkheadAt key key policy).2, ?_, ?_⟩
    · simp only [World.bulkheadAt, hfind, hmake]
      rfl
    · simp only [World.bulkheadAt, hfind, hmake]
      simp [World.lets, World.bulkhead?, hfind, World.tell, World.addBulkhead, Bulkhead.admits,
        Bulkhead.fresh, hpermits]

/-- A call finds a bulkhead that has a permit left if the one under the key had one, or was not
there yet. -/
theorem findBulkhead_lets (w : World) (key : String) {policy : BulkheadPolicy}
    (hvalid : policy.validate = .ok ()) :
    ∃ j, (w.findBulkhead key policy).1 = .ok j ∧
      (w.findBulkhead key policy).2.lets j = (w.bulkhead? key).all (·.admits) := by
  obtain ⟨j, w', hfound, hlets⟩ := bulkheadAt_lets w key hvalid
  refine ⟨j, ?_⟩
  simp only [World.findBulkhead, hvalid, hfound]
  split
  · exact ⟨rfl, hlets⟩
  · exact ⟨rfl, hlets⟩

/-- A bulkhead answers a call that asks for a permit. -/
theorem enter_eq (w : World) (j : Nat) :
    (w.lets j = true ∧ (w.enter j).1 = .ok ()) ∨
      w.lets j = false ∧ ∃ b, w.bulkheads[j]? = some b ∧ b.admits = false ∧
        (w.enter j).1 = .error (.bulkheadFull b.name b.policy.maxConcurrent) := by
  unfold World.lets World.enter
  cases w.bulkheads[j]? with
  | none => exact .inl ⟨rfl, rfl⟩
  | some b =>
    cases hadmits : b.admits with
    | true => exact .inl ⟨hadmits, by simp [hadmits]⟩
    | false => exact .inr ⟨hadmits, b, rfl, hadmits, by simp [hadmits]⟩

/-- A breaker answers a call that asks for admission. -/
theorem acquire_eq (w : World) (j : Nat) :
    (w.acquire j).1 = .ok () ∨
      ∃ b, w.breakers[j]? = some b ∧ (w.acquire j).1 = .error (.circuitOpen b.name) := by
  unfold World.acquire
  cases w.breakers[j]? with
  | none => exact .inl rfl
  | some b =>
    cases hadmits : b.admits w.clock.now with
    | true => exact .inl (by simp [hadmits])
    | false => exact .inr ⟨b, rfl, by simp [hadmits]⟩

end World

end Safeguard
