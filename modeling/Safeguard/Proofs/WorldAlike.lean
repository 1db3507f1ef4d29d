import Safeguard.Proofs.LayerResolution
import Safeguard.Proofs.WorldLasting

/-!
# Worlds that are alike for a name

Calls under a name find their breaker and their bulkhead under the two keys of the name. Two worlds
are alike for the name (`World.Alike`) if the same stands under these keys and the breakers have the
same time. What else there is in the two worlds does not matter, nor do the numbers of the
instances.

## Key results

- `breaker?_stepBreaker`, `bulkhead?_stepBulkhead`: a move is seen under the key of the instance
- `Alike.made_eq`, `Alike.registers`: worlds stay alike when a call under the name has looked for
  its layers
-/

namespace Safeguard

/-! ## Instances by key -/

/-- Different names have different keys. -/
theorem append_ne_append {m n : String} (h : m ≠ n) (suffix : String) :
    m ++ suffix ≠ n ++ suffix := by
  intro heq
  have hchars := congrArg String.toList heq
  -- The suffix is the same, so the names are what is left of equal keys.
  rw [String.toList_append, String.toList_append] at hchars
  apply h
  exact String.toList_inj.1 (List.append_cancel_right hchars)

namespace Directory

variable {ι : Type} {d : Directory} {l : List ι} {nameOf : ι → String}

/-- Every number in the directory is that of an instance, which is called after its key. -/
def Names (nameOf : ι → String) (l : List ι) (d : Directory) : Prop :=
  ∀ key i, d.find? key = some i → ∃ b, l[i]? = some b ∧ nameOf b = key

/-- Nothing is registered under a key if no instance is found under it. -/
private theorem Names.isNone_bind (h : d.Names nameOf l) (key : String) :
    ((d.find? key).bind (l[·]?)).isNone = (d.find? key).isNone := by
  cases hi : d.find? key with
  | none => rfl
  | some i =>
    obtain ⟨b, hb, -⟩ := h key i hi
    simp [hb]

/-- New instances come after the registered ones. -/
private theorem Names.bind_append (h : d.Names nameOf l) (key : String) (more : List ι) :
    (d.find? key).bind ((l ++ more)[·]?) = (d.find? key).bind (l[·]?) := by
  cases hi : d.find? key with
  | none => rfl
  | some i =>
    obtain ⟨b, hb, -⟩ := h key i hi
    have hlt := (List.getElem?_eq_some_iff.1 hb).1
    rw [Option.bind_some, Option.bind_some, List.getElem?_append_left hlt]

/-- Two keys never share a number. -/
theorem Names.find?_ne (h : d.Names nameOf l) {key other : String} (hne : other ≠ key) {i : Nat}
    (hi : d.find? other = some i) : d.find? key ≠ some i := by
  intro hi'
  obtain ⟨b, hb, hname⟩ := h other i hi
  obtain ⟨b', hb', hname'⟩ := h key i hi'
  rw [hb] at hb'
  obtain rfl : b = b' := Option.some.inj hb'
  exact hne (hname.symm.trans hname')

end Directory

namespace World

variable {w w' w'' : World} {name : String} {i j : Nat}

theorem Named.breakers (h : w.Named) : w.registry.breakers.Names (·.name) w.breakers := h.breaker

theorem Named.bulkheads (h : w.Named) : w.registry.bulkheads.Names (·.name) w.bulkheads :=
  h.bulkhead

/-- The same breaker and the same bulkhead stand under the keys of a name, and the breakers have the
same time. -/
structure Alike (name : String) (w w' : World) : Prop where
  breaker : w.breaker? (breakerKey name) = w'.breaker? (breakerKey name)
  bulkhead : w.bulkhead? (bulkheadKey name) = w'.bulkhead? (bulkheadKey name)
  clock : w.clock = w'.clock

namespace Alike

theorem refl (name : String) (w : World) : w.Alike name w := ⟨rfl, rfl, rfl⟩

theorem symm (h : w.Alike name w') : w'.Alike name w :=
  ⟨h.breaker.symm, h.bulkhead.symm, h.clock.symm⟩

theorem trans (h : w.Alike name w') (h' : w'.Alike name w'') : w.Alike name w'' :=
  ⟨h.breaker.trans h'.breaker, h.bulkhead.trans h'.bulkhead, h.clock.trans h'.clock⟩

/-- Time that passes for calls is not seen by the breakers. -/
theorem after (h : w.Alike name w') (ms : Nat) : (w.after ms).Alike name (w'.after ms) :=
  ⟨h.breaker, h.bulkhead, h.clock⟩

end Alike

/-- A move of the breaker under a key is seen under it. -/
theorem breaker?_stepBreaker {key : String} (hi : w.registry.breakers.find? key = some i)
    (after : Breaker → Breaker) (notices : Breaker → List Notice) :
    (w.stepBreaker i after notices).breaker? key = (w.breaker? key).map after := by
  simp only [breaker?, registry_stepBreaker, hi, Option.bind_some, breakers_stepBreaker, if_true]

/-- A move of another breaker is not. -/
theorem breaker?_stepBreaker_of_ne {key : String} (hi : w.registry.breakers.find? key ≠ some i)
    (after : Breaker → Breaker) (notices : Breaker → List Notice) :
    (w.stepBreaker i after notices).breaker? key = w.breaker? key := by
  rw [breaker?, registry_stepBreaker, breaker?]
  cases hj : w.registry.breakers.find? key with
  | none => rfl
  | some j =>
    have hij : i ≠ j := fun heq => hi (heq ▸ hj)
    simp [breakers_stepBreaker, hij]

/-- A move of a bulkhead is not one of a breaker. -/
theorem breaker?_stepBulkhead (key : String) (i : Nat) (after : Bulkhead → Bulkhead)
    (notices : Bulkhead → List Notice) :
    (w.stepBulkhead i after notices).breaker? key = w.breaker? key := by
  rw [breaker?, registry_stepBulkhead, (SameBreakers.stepBulkhead w i after notices).breakers]
  rfl

/-- A move of the bulkhead under a key is seen under it. -/
theorem bulkhead?_stepBulkhead {key : String} (hj : w.registry.bulkheads.find? key = some j)
    (after : Bulkhead → Bulkhead) (notices : Bulkhead → List Notice) :
    (w.stepBulkhead j after notices).bulkhead? key = (w.bulkhead? key).map after := by
  simp only [bulkhead?, registry_stepBulkhead, hj, Option.bind_some, bulkheads_stepBulkhead,
    if_true]

/-- A move of another bulkhead is not. -/
theorem bulkhead?_stepBulkhead_of_ne {key : String}
    (hj : w.registry.bulkheads.find? key ≠ some j) (after : Bulkhead → Bulkhead)
    (notices : Bulkhead → List Notice) :
    (w.stepBulkhead j after notices).bulkhead? key = w.bulkhead? key := by
  rw [bulkhead?, registry_stepBulkhead, bulkhead?]
  cases hi : w.registry.bulkheads.find? key with
  | none => rfl
  | some i =>
    have hji : j ≠ i := fun heq => hj (heq ▸ hi)
    simp [bulkheads_stepBulkhead, hji]

/-- A move of a breaker is not one of a bulkhead. -/
theorem bulkhead?_stepBreaker (key : String) (i : Nat) (after : Breaker → Breaker)
    (notices : Breaker → List Notice) :
    (w.stepBreaker i after notices).bulkhead? key = w.bulkhead? key := by
  rw [bulkhead?, registry_stepBreaker, bulkheads_stepBreaker]
  rfl

/-- What a breaker answers can be told from what stands under its key. -/
theorem acquire_answer {key : String} (hi : w.registry.breakers.find? key = some i) :
    (w.acquire i).1 = (w.breaker? key).elim (.ok ()) fun b =>
      if b.admits w.clock.now then .ok () else .error (.circuitOpen b.name) := by
  rw [breaker?, hi, Option.bind_some, acquire]
  cases w.breakers[i]? <;> rfl

/-- What a bulkhead answers can be told from what stands under its key. -/
theorem enter_answer {key : String} (hj : w.registry.bulkheads.find? key = some j) :
    (w.enter j).1 = (w.bulkhead? key).elim (.ok ()) fun b =>
      if b.admits then .ok () else .error (.bulkheadFull b.name b.policy.maxConcurrent) := by
  rw [bulkhead?, hj, Option.bind_some, enter]
  cases w.bulkheads[j]? <;> rfl

/-! ## Finding the layers -/

variable {v v' : World} {bulkhead : Option BulkheadPolicy} {breaker : Option BreakerPolicy}

/-- What stands under a key after a call has looked for its layers. -/
private theorem Registers.breaker?_elim (h : Registers name bulkhead breaker w v) :
    v.breaker? (breakerKey name) =
      breaker.elim (w.breaker? (breakerKey name)) fun p => some (.fresh (breakerKey name) p) := by
  cases breaker with
  | some p => exact h.breaker?_eq rfl
  | none =>
    -- The call may have made a bulkhead, which is none of the breakers.
    have hbreakers : v.breakers = w.breakers := by simpa using h.breakers
    rw [breaker?, h.find_breaker, hbreakers]
    rfl

private theorem Registers.bulkhead?_elim (h : Registers name bulkhead breaker w v) :
    v.bulkhead? (bulkheadKey name) = bulkhead.elim (w.bulkhead? (bulkheadKey name))
      fun p => some (.fresh (bulkheadKey name) p) := by
  cases bulkhead with
  | some p => exact h.bulkhead?_eq rfl
  | none =>
    have hbulkheads : v.bulkheads = w.bulkheads := by simpa using h.bulkheads
    rw [bulkhead?, h.find_bulkhead, hbulkheads]
    rfl

/-- Worlds stay alike if the same is made in both of them. -/
theorem Alike.registers (halike : w.Alike name w') (h : Registers name bulkhead breaker w v)
    (h' : Registers name bulkhead breaker w' v') : v.Alike name v' := by
  refine ⟨?_, ?_, ?_⟩
  · rw [h.breaker?_elim, h'.breaker?_elim, halike.breaker]
  · rw [h.bulkhead?_elim, h'.bulkhead?_elim, halike.bulkhead]
  · rw [h.clock, h'.clock, halike.clock]

/-- A call makes the same instances in worlds that are alike. -/
theorem Alike.made_eq (halike : w.Alike name w') (h : w.Named) (h' : w'.Named)
    (options : Options) :
    w.madeBulkhead name options.bulkhead = w'.madeBulkhead name options.bulkhead ∧
      Orchestrator.breakerMade name options w = Orchestrator.breakerMade name options w' := by
  have hbulkhead : (w.registry.bulkheads.find? (bulkheadKey name)).isNone =
      (w'.registry.bulkheads.find? (bulkheadKey name)).isNone := by
    rw [← h.bulkheads.isNone_bind, ← h'.bulkheads.isNone_bind]
    exact congrArg Option.isNone halike.bulkhead
  have hbreaker : (w.registry.breakers.find? (breakerKey name)).isNone =
      (w'.registry.breakers.find? (breakerKey name)).isNone := by
    rw [← h.breakers.isNone_bind, ← h'.breakers.isNone_bind]
    exact congrArg Option.isNone halike.breaker
  -- What is made depends on whether something is registered, and that can be told from what is
  -- found.
  simp only [Orchestrator.breakerMade, madeBulkhead, madeBreaker, hbulkhead, hbreaker, and_self]

/-! ## Other names -/

/-- What a call under another name registers is not seen. -/
theorem Registers.alike_of_ne {other : String} (h : Registers other bulkhead breaker w v)
    (hnamed : w.Named) (hne : other ≠ name) : w.Alike name v := by
  have hbreakers : v.registry.breakers.find? (breakerKey name) =
      w.registry.breakers.find? (breakerKey name) := by
    rw [h.breakerDirectory]
    cases breaker with
    | none => rfl
    | some p => exact Directory.find?_insert_of_ne _ (append_ne_append hne.symm _) _
  have hbulkheads : v.registry.bulkheads.find? (bulkheadKey name) =
      w.registry.bulkheads.find? (bulkheadKey name) := by
    rw [h.bulkheadDirectory]
    cases bulkhead with
    | none => rfl
    | some p => exact Directory.find?_insert_of_ne _ (append_ne_append hne.symm _) _
  -- New instances come last, so what is under the keys of the name keeps its number and its place.
  refine ⟨?_, ?_, h.clock.symm⟩
  · rw [breaker?, breaker?, hbreakers, h.breakers]
    exact (hnamed.breakers.bind_append _ _).symm
  · rw [bulkhead?, bulkhead?, hbulkheads, h.bulkheads]
    exact (hnamed.bulkheads.bind_append _ _).symm

/-! ## Resets -/

/-- A reset moves one breaker, if there is one under the key, and lets the world know. -/
private theorem resetKey_eq (w : World) (key : String) :
    (w.registry.breakers.find? key = none ∧ (w.resetKey key).2 = w) ∨
      ∃ i notices, w.registry.breakers.find? key = some i ∧
        (w.resetKey key).2 = (w.stepBreaker i (·.reset) (·.resetNotices)).tell notices := by
  unfold resetKey
  cases w.registry.breakers.find? key with
  | none => exact .inl ⟨rfl, rfl⟩
  | some i => exact .inr ⟨i, _, rfl, rfl⟩

/-- A reset under the key of a name does the same in worlds that are alike. -/
theorem Alike.resetKey (halike : w.Alike name w') :
    (w.resetKey (breakerKey name)).2.Alike name (w'.resetKey (breakerKey name)).2 := by
  -- Each world on its own: the reset is seen under the key of the breaker, and nowhere else.
  have hbreaker (w : World) : (w.resetKey (breakerKey name)).2.breaker? (breakerKey name) =
      (w.breaker? (breakerKey name)).map (·.reset) := by
    rcases w.resetKey_eq (breakerKey name) with ⟨hnone, heq⟩ | ⟨i, notices, hi, heq⟩
    · rw [heq, breaker?, hnone]
      rfl
    · rw [heq]
      exact breaker?_stepBreaker hi _ _
  have hother (w : World) : (w.resetKey (breakerKey name)).2.bulkhead? (bulkheadKey name) =
      w.bulkhead? (bulkheadKey name) ∧ (w.resetKey (breakerKey name)).2.clock = w.clock := by
    rcases w.resetKey_eq (breakerKey name) with ⟨-, heq⟩ | ⟨i, notices, -, heq⟩
    · rw [heq]
      exact ⟨rfl, rfl⟩
    · rw [heq]
      exact ⟨bulkhead?_stepBreaker _ i _ _, clock_stepBreaker i _ _⟩
  refine ⟨?_, ?_, ?_⟩
  · rw [hbreaker, hbreaker, halike.breaker]
  · rw [(hother w).1, (hother w').1, halike.bulkhead]
  · rw [(hother w).2, (hother w').2, halike.clock]

/-- A reset under another key is not seen. -/
theorem Named.resetKey_alike (hnamed : w.Named) {key : String} (hne : key ≠ breakerKey name) :
    w.Alike name (w.resetKey key).2 := by
  rcases w.resetKey_eq key with ⟨-, heq⟩ | ⟨i, notices, hi, heq⟩
  · rw [heq]
    exact .refl name w
  -- Breakers are called after their keys, so that two keys have two breakers.
  · have havoids := hnamed.breakers.find?_ne hne hi
    rw [heq]
    refine ⟨?_, ?_, ?_⟩
    · exact (breaker?_stepBreaker_of_ne havoids _ _).symm
    · exact (bulkhead?_stepBreaker _ i _ _).symm
    · exact (clock_stepBreaker i _ _).symm

end World

end Safeguard
