import Safeguard.EnvFile.Entry
import Safeguard.EnvFile.Lines
import Safeguard.Environment

/-!
# Files of variables

A file of variables adds to an environment. Its entries take effect one after another, up to the
first line that cannot be read, and none replaces a text that is already there. An entry that would
have to set a value with a NUL stops everything by a panic.
-/

namespace Safeguard

/-- What can be read of a file of variables: the entries in front of its first fault, and whether
there is a fault. -/
structure EnvFile where
  entries : List EnvFile.Entry
  faulty : Bool
deriving DecidableEq

namespace EnvFile

/-- The name under which a file of variables is kept. -/
def fileName : String := ".env"

/-- Collects the entries of lines up to the first fault. -/
def ofLines : List (Option (List Char)) → EnvFile
  | [] => ⟨[], false⟩
  | none :: _ => ⟨[], true⟩
  | some line :: rest =>
    match Line.read line with
    | .nothing => ofLines rest
    | .fault => ⟨[], true⟩
    | .entry e =>
      let file := ofLines rest
      ⟨e :: file.entries, file.faulty⟩

/-- Reads a file. -/
def ofBytes (bytes : List UInt8) : EnvFile := ofLines (linesOf bytes)

/-- The environment in which one entry has taken effect. -/
def Entry.applyTo (e : Entry) (env : Environment) : Ending Environment :=
  env.offer e.name (e.text env.reference)

/-- The environment in which entries have taken effect one after another. -/
def applyAll : List Entry → Environment → Ending Environment
  | [], env => .returned env
  | e :: es, env => (e.applyTo env).bind (applyAll es)

/-- The environment in which a file has taken effect. -/
def applyTo (file : EnvFile) (env : Environment) : Ending Environment := applyAll file.entries env

end EnvFile

end Safeguard
