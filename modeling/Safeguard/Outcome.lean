import Safeguard.Fault

/-!
# Outcomes and endings

An `Outcome` is what one attempt of an operation comes to. An `Ending` is how a piece of work stops:
it returns something, or a panic unwinds through it.
-/

namespace Safeguard

instance decidableEqExcept {ε α : Type} [DecidableEq ε] [DecidableEq α] :
    DecidableEq (Except ε α)
  | .ok a, .ok a' => decidable_of_iff (a = a') (by simp)
  | .error e, .error e' => decidable_of_iff (e = e') (by simp)
  | .ok _, .error _ | .error _, .ok _ => isFalse nofun

@[simp] theorem mapError_ok {ε ε' α : Type} (f : ε → ε') (a : α) :
    (.ok a : Except ε α).mapError f = .ok a := rfl

@[simp] theorem mapError_error {ε ε' α : Type} (f : ε → ε') (e : ε) :
    (.error e : Except ε α).mapError f = .error (f e) := rfl

/-- What one attempt of an operation comes to. -/
inductive Outcome (β : Type) where
  | value (v : β)
  | error (e : OperationError)
  | panic (message : String)
deriving DecidableEq

/-- How a piece of work stops. -/
inductive Ending (α : Type) where
  | returned (a : α)
  | panicked (message : String)
deriving DecidableEq

namespace Ending

variable {α γ : Type}

/-- The ending with what was returned changed. -/
def map (f : α → γ) : Ending α → Ending γ
  | returned a => returned (f a)
  | panicked message => panicked message

@[simp] theorem map_returned (f : α → γ) (a : α) : (returned a).map f = returned (f a) := rfl

@[simp] theorem map_panicked (f : α → γ) (message : String) :
    (panicked message : Ending α).map f = panicked message := rfl

/-- Goes on with what was returned; a panic stops the whole. -/
def bind (x : Ending α) (k : α → Ending γ) : Ending γ :=
  match x with
  | returned a => k a
  | panicked message => panicked message

@[simp] theorem bind_returned (a : α) (k : α → Ending γ) : (returned a).bind k = k a := rfl

@[simp] theorem bind_panicked (message : String) (k : α → Ending γ) :
    (panicked message : Ending α).bind k = panicked message := rfl

/-- What was returned, if anything was. -/
def returned? : Ending α → Option α
  | returned a => some a
  | panicked _ => none

end Ending

namespace Outcome

variable {β : Type}

/-- How an attempt with a given outcome stops. -/
def ending : Outcome β → Ending (Except OperationError β)
  | value v => .returned (.ok v)
  | error e => .returned (.error e)
  | panic message => .panicked message

end Outcome

end Safeguard
