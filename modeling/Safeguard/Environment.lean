import Safeguard.Outcome
import Safeguard.Settings.Failure
import Safeguard.Text.Blank
import Safeguard.Text.Quoted

/-!
# Environments

The variables that a process is started with. A value may be any bytes; all that matters of one that
is no text is that it is there. The main statements say what is under a name after a variable is
set.
-/

namespace Safeguard

/-- The value of a variable: a text, or bytes that are none. -/
inductive EnvValue
  | text (s : String)
  | bytes
deriving DecidableEq

/-- The value that bytes are. -/
def EnvValue.ofBytes (bytes : List UInt8) : EnvValue :=
  match String.fromUTF8? ⟨bytes.toArray⟩ with
  | some s => .text s
  | none => .bytes

/-- The variables of a process. Of two values under one name the first counts. -/
structure Environment where
  entries : List (String × EnvValue)
deriving DecidableEq

namespace Environment

variable (env : Environment)

/-- The value under a name, if there is one. -/
def get? (name : String) : Option EnvValue := env.entries.lookup name

/-- Whether there is a value under a name. -/
def isSet (name : String) : Bool := (env.get? name).isSome

/-- The value under a name, if it is a text. -/
def text? (name : String) : Option String :=
  match env.get? name with
  | some (.text s) => some s
  | _ => none

/-- The environment with a text under a name. -/
def set (name value : String) : Environment := ⟨(name, .text value) :: env.entries⟩

/-- What a reference to a variable stands for: nothing, unless the variable is a text. A variable is
kept as its name, an equals sign and its value, of which the reference has to name everything up to
an equals sign: with one of its own it reaches into the value. -/
def reference (name : String) : String :=
  let key := name.toList.takeWhile (· ≠ '=')
  let found? := do
    let value ← env.text? (String.ofList key)
    (name.toList ++ ['=']).isPrefixOf? (key ++ '=' :: value.toList)
  String.ofList (found?.getD [])

/-- The refusal of a value with a NUL, which no variable can have. -/
def nulRefusal (name value : String) : String :=
  "failed to set environment variable `" ++ Text.quotedStrictly name ++ "` to `" ++
    Text.quotedStrictly value ++ "`: file name contained an unexpected NUL byte"

/-- The environment with a text under a name, unless there is a text already. -/
def offer (name value : String) : Ending Environment :=
  if (env.text? name).isSome then .returned env
  else if value.toList.any (·.toNat = 0) then .panicked (nulRefusal name value)
  else .returned (env.set name value)

/-- Reads the value under a name, if there is one, without the blanks around it. -/
def read? {α ε : Type} (name : String) (read : List Char → Except ε α) (message : ε → String) :
    Except SetupError (Option α) :=
  match env.get? name with
  | none => .ok none
  | some .bytes => .error (.rawVariable name)
  | some (.text raw) =>
    match read (Text.trim raw.toList) with
    | .ok a => .ok (some a)
    | .error e => .error (.badVariable name raw (message e))

variable {env} {name value other : String}

@[simp] theorem get?_set_self : (env.set name value).get? name = some (.text value) := by
  simp [set, get?]

/-- The other names keep their values. -/
theorem get?_set_of_ne (h : other ≠ name) : (env.set name value).get? other = env.get? other := by
  simp [set, get?, List.lookup_cons, beq_eq_false_iff_ne.mpr h]

end Environment

end Safeguard
