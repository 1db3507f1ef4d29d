import Safeguard.Policy
import Mathlib.Logic.Function.Iterate

/-!
# Retry predicates and layers

Attempts that a layer wraps fail with the layer's faults, so the retry policy asks its predicate
about them through `RetryPolicy.unwrapping`. This file says what that changes: the fault of a failed
operation is seen as the bare error, once and for all, and any other failure is seen as it is. A
predicate that tests the operation's error finds it with or without this, wherever it is
(`Failure.Carries`).

## Key results

- `Failure.unwrapped_unwrapped`: unwrapping once is enough
- `RetryPolicy.iterate_unwrapping`: so it is for policies
- `Predicate.onOperationError_of_carries`, `Predicate.onOperationError_of_not_carries`: what a
  predicate that tests the operation's error answers
- `RetryPolicy.unwrapping_laws`: all of it
-/

namespace Safeguard

variable {ε : Type}

namespace Failure

/-- The failure brings an error of the operation: bare, or below the exhausted retries of one
layer. -/
inductive Carries : Failure ε → ε → Prop
  | bare (e : ε) : Carries (.bare e) e
  | operation (e : ε) : Carries (.layered (.operation e)) e
  | exhausted {name : String} {attempts : UInt32} {last : Fault ε} {e : ε}
      (h : Carries (.layered last) e) : Carries (.layered (.retryExhausted name attempts last)) e

/-- A failure that is not wrapped stays as it is. -/
private theorem unwrapped_of_ne {f : Failure ε} (h : ∀ e, f ≠ .layered (.operation e)) :
    f.unwrapped = f := by
  unfold unwrapped
  split
  · next e => exact absurd rfl (h e)
  · rfl

/-- What comes out is not the fault of a failed operation any more. -/
theorem unwrapped_unwrapped (f : Failure ε) : f.unwrapped.unwrapped = f.unwrapped := by
  by_cases h : ∃ e, f = .layered (.operation e)
  · obtain ⟨e, rfl⟩ := h
    rfl
  · rw [unwrapped_of_ne (not_exists.1 h), unwrapped_of_ne (not_exists.1 h)]

/-- The error below exhausted retries is the one that the fault has for its cause. -/
private theorem carries_layered_iff {f : Fault ε} {e : ε} :
    (layered f).Carries e ↔ f.operationError = some e := by
  -- By induction on the levels of exhausted retries.
  induction f with
  | operation e' =>
    constructor
    · rintro ⟨⟩
      rfl
    · rintro ⟨⟩
      exact .operation e
  | retryExhausted name attempts last ih =>
    constructor
    · rintro ⟨⟩
      exact ih.1 ‹_›
    · exact fun h => .exhausted (ih.2 h)
  | circuitOpen | bulkheadFull | timedOut | invalidConfiguration => exact ⟨nofun, nofun⟩

/-- Unwrapping neither loses nor makes up an error. -/
private theorem carries_unwrapped_iff {f : Failure ε} {e : ε} :
    f.unwrapped.Carries e ↔ f.Carries e := by
  by_cases h : ∃ e', f = .layered (.operation e')
  · obtain ⟨e', rfl⟩ := h
    constructor
    · rintro ⟨⟩
      exact .operation e
    · rintro ⟨⟩
      exact .bare e
  · rw [unwrapped_of_ne (not_exists.1 h)]

end Failure

namespace Predicate

variable (test : ε → Bool) {f : Failure ε}

/-- A failure that carries an error of the operation is tested by it. -/
theorem onOperationError_of_carries {e : ε} (h : f.Carries e) :
    onOperationError test f = test e := by
  cases f with
  | bare e' =>
    cases h
    rfl
  | layered f => simp [onOperationError, Failure.carries_layered_iff.1 h]
  | nested | foreign => cases h

/-- A failure that carries no error of the operation passes the test. -/
theorem onOperationError_of_not_carries (h : ∀ e, ¬ f.Carries e) :
    onOperationError test f = true := by
  cases f with
  | bare e => exact absurd (.bare e) (h e)
  | layered f =>
    have hnone : f.operationError = none := by
      apply Option.eq_none_iff_forall_ne_some.2
      exact fun e he => h e (Failure.carries_layered_iff.2 he)
    simp [onOperationError, hnone]
  | nested | foreign => rfl

/-- A test of the operation's error sees through a layer by itself. -/
private theorem onOperationError_unwrapped (f : Failure ε) :
    onOperationError test f.unwrapped = onOperationError test f := by
  -- Unwrapping changes neither whether an error is carried nor which.
  by_cases h : ∃ e, f.Carries e
  · obtain ⟨e, h⟩ := h
    rw [onOperationError_of_carries test h,
      onOperationError_of_carries test (Failure.carries_unwrapped_iff.2 h)]
  · have hnone : ∀ e, ¬ f.Carries e := not_exists.1 h
    rw [onOperationError_of_not_carries test hnone, onOperationError_of_not_carries test
      fun e he => hnone e (Failure.carries_unwrapped_iff.1 he)]

/-- Unwrapping a predicate twice is unwrapping it once. -/
private theorem unwrapping_unwrapping (p : Predicate ε) : p.unwrapping.unwrapping = p.unwrapping :=
  funext fun f => congrArg p (Failure.unwrapped_unwrapped f)

end Predicate

namespace RetryPolicy

variable (p : RetryPolicy ε)

/-- Unwrapping the predicates of a policy twice is unwrapping them once. -/
private theorem unwrapping_unwrapping : p.unwrapping.unwrapping = p.unwrapping := by
  unfold unwrapping
  cases p.predicate with
  | none => rfl
  | some q => simp only [Option.map_some, Predicate.unwrapping_unwrapping]

/-- Any number of layers is one layer to a policy. -/
theorem iterate_unwrapping {n : Nat} (h : 1 ≤ n) : unwrapping^[n] p = p.unwrapping := by
  obtain ⟨n, rfl⟩ := Nat.exists_eq_add_of_le' h
  -- Every further layer is taken off by the one before it.
  induction n with
  | zero => rfl
  | succ n ih => rw [Function.iterate_succ_apply', ih (by omega), unwrapping_unwrapping]

/-- A policy for attempts that layers wrap is the same for any number of them. It answers for a
failed operation in a layer as the policy itself does for the bare error, and for any other failure
as the policy itself does. One that tests the operation's error needs no layer taken off: it answers
as the test does wherever there is such an error, and accepts every failure without one. -/
theorem unwrapping_laws (test : ε → Bool) (f : Failure ε) :
    (∀ n, 1 ≤ n → (unwrapping^[n] p).accepts f = p.unwrapping.accepts f) ∧
    (∀ e, p.unwrapping.accepts (.layered (.operation e)) = p.accepts (.bare e)) ∧
    ((∀ e, f ≠ .layered (.operation e)) → p.unwrapping.accepts f = p.accepts f) ∧
    let tested : RetryPolicy ε := { p with predicate := some (.onOperationError test) }
    tested.unwrapping.accepts f = tested.accepts f ∧
    (∀ e, f.Carries e → tested.accepts f = test e) ∧
    ((∀ e, ¬ f.Carries e) → tested.accepts f = true) := by
  refine ⟨fun n hn => ?_, fun e => ?_, fun hne => ?_, ?_, fun e he => ?_, fun hnone => ?_⟩
  · rw [p.iterate_unwrapping hn]
  · exact p.accepts_unwrapping (.layered (.operation e))
  · rw [accepts_unwrapping, Failure.unwrapped_of_ne hne]
  · rw [accepts_unwrapping]
    exact Predicate.onOperationError_unwrapped test f
  · exact Predicate.onOperationError_of_carries test he
  · exact Predicate.onOperationError_of_not_carries test hnone

/-- A policy that downcasts, asked about a failed operation, an error below two exhausted retries, a
deadline and an error of another type. -/
theorem unwrapping_laws_downcast :
    let isTransient (e : OperationError) : Bool := e.message = "transient"
    let p : RetryPolicy :=
      { RetryPolicy.standard with predicate := some (.onBare isTransient false) }
    let tested : RetryPolicy := { p with predicate := some (.onOperationError isTransient) }
    let fatal : OperationError := ⟨"fatal"⟩
    let deep : Fault OperationError :=
      .retryExhausted "apiRetry" 3 (.retryExhausted "dbRetry" 2 (.operation fatal))
    let late : Fault OperationError := .timedOut (.ofMillis 250)
    let foreign : Failure := .foreign ⟨"ParseIntError", "invalid digit found in string"⟩
    (1 ≤ 4 ∧ (unwrapping^[4] p).accepts (.layered (.operation ⟨"transient"⟩)) = true) ∧
    p.accepts (.layered (.operation ⟨"transient"⟩)) = false ∧
    ((∀ e, Failure.layered late ≠ .layered (.operation e)) ∧
      p.unwrapping.accepts (.layered late) = p.accepts (.layered late)) ∧
    ((Failure.layered deep).Carries fatal ∧ tested.accepts (.layered deep) = false ∧
      tested.unwrapping.accepts (.layered deep) = false) ∧
    (∀ e, ¬ foreign.Carries e) ∧ tested.accepts foreign = true := by
  intro isTransient p tested fatal deep late foreign
  have hcarries : (Failure.layered deep).Carries fatal := .exhausted (.exhausted (.operation fatal))
  have hnone : ∀ e, ¬ foreign.Carries e := by
    intro e h
    dsimp only [foreign] at h
    cases h
  have hlate : ∀ e, Failure.layered late ≠ .layered (.operation e) := by
    intro e h
    simp [late] at h
  -- One instance of the laws for each of the four failures.
  obtain ⟨hiterate, hbare, -⟩ :=
    unwrapping_laws p isTransient (.layered (.operation ⟨"transient"⟩))
  obtain ⟨-, -, hkept, -⟩ := unwrapping_laws p isTransient (.layered late)
  obtain ⟨-, -, -, hsame, htest, -⟩ := unwrapping_laws p isTransient (.layered deep)
  obtain ⟨-, -, -, -, -, haccepted⟩ := unwrapping_laws p isTransient foreign
  refine ⟨⟨by decide, ?_⟩, rfl, ⟨hlate, hkept hlate⟩, ⟨hcarries, htest fatal hcarries, ?_⟩,
    hnone, haccepted hnone⟩
  · exact (hiterate 4 (by decide)).trans (hbare ⟨"transient"⟩)
  · exact hsame.trans (htest fatal hcarries)

end RetryPolicy

end Safeguard
