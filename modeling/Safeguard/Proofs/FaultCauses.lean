import Safeguard.Fault
import Mathlib.Logic.Function.Iterate

/-!
# The cause of a fault

An operation's error may lie below any number of exhausted retries, and these again in a fault of a
layer further out. This file shows that the error comes back whichever way it is looked for: by
`operationError`, by taking the fault apart, by going from cause to cause, or after two levels of
fault have been made one. The recursion of all of them is that of the exhausted retries, so every
proof is an induction with one case for these and one for each fault that has none below it.

## Key results

- `getElem?_links`: the causes of a fault are what going from cause to cause finds
- `operationError_eq_some_iff`: the operation's error is the last cause
- `operationError_flatten`: the cause of a flattened fault
- `flatten_underRetries`, `particulars_flatten`: what flattening keeps
- `cause_survives`: all of it
-/

namespace Safeguard.Fault

variable {ε : Type}

/-- The number of exhausted retries that are nested in a fault. -/
def depth : Fault ε → Nat
  | retryExhausted _ _ last => last.depth + 1
  | _ => 0

/-- A fault below exhausted retries, the outermost first, each with its name and its number of
attempts. -/
def underRetries (f : Fault ε) (retries : List (String × UInt32)) : Fault ε :=
  retries.foldr (fun (name, attempts) last => retryExhausted name attempts last) f

/-- What a fault says by itself, its cause aside. -/
structure Particulars where
  kind : FaultKind
  name : Option String := none
  attempts : Option UInt32 := none
  /-- The number of calls that were in flight. -/
  calls : Option UInt64 := none
  /-- The time that was up. -/
  span : Option Duration := none
  message : Option String := none
deriving DecidableEq

/-- What a fault says by itself. -/
def particulars : Fault ε → Particulars
  | circuitOpen name => { kind := .circuitOpen, name := some name }
  | bulkheadFull name limit => { kind := .bulkheadFull, name := some name, calls := some limit }
  | retryExhausted name attempts _ =>
    { kind := .retryExhausted, name := some name, attempts := some attempts }
  | timedOut limit => { kind := .timedOut, span := some limit }
  | operation _ => { kind := .operation }
  | invalidConfiguration message => { kind := .invalidConfiguration, message := some message }

/-- The kind of a fault is among its particulars. -/
private theorem kind_particulars (f : Fault ε) : f.particulars.kind = f.kind := by
  cases f <;> rfl

/-! ## From cause to cause -/

/-- Taking a fault apart gives the error that is found in it. -/
private theorem intoOperationError_eq (f : Fault ε) : f.intoOperationError = f.operationError := by
  induction f with
  | retryExhausted name attempts last ih => simpa [intoOperationError, operationError] using ih
  | operation e => rfl
  | circuitOpen | bulkheadFull | timedOut | invalidConfiguration => rfl

/-- Once there is no cause, there is none further on. -/
private theorem iterate_source?_none (n : Nat) :
    (fun l : Option (Link ε) => l.bind Link.source?)^[n] none = none := by
  induction n with
  | zero => rfl
  | succ n ih => simpa using ih

/-- The cause number `n`, counted from zero, is found in `n` steps from the nearest one. -/
theorem getElem?_links (f : Fault ε) (n : Nat) :
    f.links[n]? = (fun l : Option (Link ε) => l.bind Link.source?)^[n] f.source? := by
  induction f generalizing n with
  -- The nearest cause of exhausted retries is the last fault, and the rest are its causes.
  | retryExhausted name attempts last ih =>
    cases n with
    | zero => rfl
    | succ n => simpa [links, source?, Link.source?] using ih n
  | operation e =>
    cases n with
    | zero => rfl
    | succ n => simp [links, source?, Link.source?, iterate_source?_none]
  | circuitOpen | bulkheadFull | timedOut | invalidConfiguration =>
    simp [links, source?, iterate_source?_none]

/-- Every exhausted retry has a cause, and so has a failed operation. -/
private theorem length_links (f : Fault ε) :
    f.links.length = f.depth + if f.operationError.isSome then 1 else 0 := by
  induction f with
  | retryExhausted name attempts last ih =>
    show last.links.length + 1 = last.depth + 1 + if last.operationError.isSome then 1 else 0
    omega
  | operation e => rfl
  | circuitOpen | bulkheadFull | timedOut | invalidConfiguration => rfl

/-- The operation's error, if there is one, is the last cause, and nothing else can be an error. -/
theorem operationError_eq_some_iff (f : Fault ε) (e : ε) :
    f.operationError = some e ↔ f.links.getLast? = some (.error e) := by
  induction f with
  | retryExhausted name attempts last ih =>
    simp only [operationError, links, List.getLast?_cons, ih]
    -- Without causes further on, the last cause is a fault.
    cases last.links.getLast? <;> simp
  | operation e' => simp [operationError, links]
  | circuitOpen | bulkheadFull | timedOut | invalidConfiguration => simp [operationError, links]

/-! ## Two levels of fault -/

/-- The cause of the inner fault is the cause of the whole. -/
theorem operationError_flatten (g : Fault (Fault ε)) :
    g.flatten.operationError = g.operationError.bind operationError := by
  induction g with
  | retryExhausted name attempts last ih => simpa [flatten, operationError] using ih
  | operation inner => rfl
  | circuitOpen | bulkheadFull | timedOut | invalidConfiguration => rfl

/-- Every fault but that of the operation says the same after flattening. -/
theorem particulars_flatten {g : Fault (Fault ε)} (h : g.kind ≠ .operation) :
    g.flatten.particulars = g.particulars := by
  cases g with
  | operation inner => exact absurd rfl h
  | circuitOpen | bulkheadFull | retryExhausted | timedOut | invalidConfiguration => rfl

/-- Exhausted retries stay, however many there are, and what is below them is flattened. -/
theorem flatten_underRetries (g : Fault (Fault ε)) (retries : List (String × UInt32)) :
    (g.underRetries retries).flatten = g.flatten.underRetries retries := by
  induction retries with
  | nil => rfl
  | cons retry retries ih => exact congrArg (retryExhausted retry.1 retry.2) ih

/-- The operation's error is the same by all ways of looking for it: as it is found in a fault, as
it is taken out of it, and as the last of the causes, which are one for each exhausted retry and one
for the failed operation. It stays the same when two levels of fault become one. Flattening keeps
what every other fault says, below any number of exhausted retries, and puts the inner fault in the
place of a failed operation. -/
theorem cause_survives (f : Fault ε) (g : Fault (Fault ε)) :
    f.intoOperationError = f.operationError ∧
    (∀ n, f.links[n]? = (fun l : Option (Link ε) => l.bind Link.source?)^[n] f.source?) ∧
    f.links.length = f.depth + (if f.operationError.isSome then 1 else 0) ∧
    (∀ e, f.operationError = some e ↔ f.links.getLast? = some (.error e)) ∧
    g.flatten.intoOperationError = g.intoOperationError.bind intoOperationError ∧
    (g.kind ≠ .operation → g.flatten.kind = g.kind ∧ g.flatten.particulars = g.particulars) ∧
    (∀ retries, (g.underRetries retries).flatten = g.flatten.underRetries retries) ∧
    ∀ inner : Fault ε, (operation inner).flatten = inner := by
  refine ⟨intoOperationError_eq f, getElem?_links f, length_links f, operationError_eq_some_iff f,
    ?_, fun hkind => ⟨?_, particulars_flatten hkind⟩, flatten_underRetries g, fun inner => rfl⟩
  -- The two ways to the error are one and the same function.
  · have hinner : (intoOperationError : Fault ε → Option ε) = operationError :=
      funext intoOperationError_eq
    rw [intoOperationError_eq, intoOperationError_eq, operationError_flatten, hinner]
  · rw [← kind_particulars, particulars_flatten hkind, kind_particulars]

/-- An error two layers deep, below exhausted retries in both, and a refusal below a retry. -/
theorem cause_survives_nested :
    let e : OperationError := ⟨"refused"⟩
    let inner : Fault OperationError := (operation e).underRetries [("dbRetry", 2)]
    let g : Fault (Fault OperationError) :=
      (operation inner).underRetries [("apiRetry", 3), ("rpcRetry", 5)]
    let full : Fault (Fault OperationError) :=
      (bulkheadFull "apiBulkhead" 7).underRetries [("apiRetry", 3)]
    inner.links = [.fault (operation e), .error e] ∧
    (inner.operationError = some e ↔ inner.links.getLast? = some (.error e)) ∧
    g.flatten = (operation e).underRetries [("apiRetry", 3), ("rpcRetry", 5), ("dbRetry", 2)] ∧
    g.flatten.intoOperationError = g.intoOperationError.bind intoOperationError ∧
    full.kind ≠ .operation ∧ full.flatten.particulars = full.particulars := by
  intro e inner g full
  obtain ⟨-, -, -, hlast, hflat, -⟩ := cause_survives inner g
  obtain ⟨-, -, -, -, -, hkept, -⟩ := cause_survives inner full
  exact ⟨rfl, hlast e, rfl, hflat, nofun, (hkept nofun).2⟩

end Safeguard.Fault
