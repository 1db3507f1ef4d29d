import Safeguard.Complaint
import Safeguard.Settings
import Safeguard.Text.Quoted

/-!
# Failures of setting up

Everything that can go wrong before a call is made: the settings cannot be found or read, they are
out of order, or a facility of the process is taken already.
-/

namespace Safeguard

/-- Why the content of a file cannot be had. -/
inductive ReadFailure
  | isDirectory
  | notText
deriving DecidableEq

/-- The wording of the reason. -/
def ReadFailure.message : ReadFailure → String
  | isDirectory => "Is a directory (os error 21)"
  | notText => "stream did not contain valid UTF-8"

/-- What can go wrong while setting up. -/
inductive SetupError where
  /-- A setting is out of order. -/
  | settings (e : SettingsError)
  /-- A policy made from the settings is refused. -/
  | policy (e : PolicyError)
  /-- A variable has a value that does not denote a setting. -/
  | badVariable (name value reason : String)
  /-- A variable has a value that is no text. -/
  | rawVariable (name : String)
  /-- The file that was asked for is not there. -/
  | noSuchFile (path : String)
  /-- No file was asked for, and there is none in the usual places. -/
  | noFile
  | unreadable (reason : ReadFailure)
  /-- The file is of a format that is not known. -/
  | unknownFormat (extension : String)
  | badToml
  | badJson
  /-- Another log sink was installed before. -/
  | loggingTaken
deriving DecidableEq

namespace SetupError

/-- The complaint that an error amounts to. -/
def complaint : SetupError → Complaint
  | settings e => ⟨.configuration, e.message⟩
  | policy e => ⟨.configuration, e.text⟩
  | badVariable name value reason =>
    ⟨.configuration,
      "Invalid value for " ++ name ++ " (" ++ Text.quoted value ++ "): " ++ reason⟩
  | rawVariable name =>
    ⟨.configuration, "Environment variable " ++ name ++ " is not valid UTF-8"⟩
  | noSuchFile path => ⟨.configuration, "Config file not found: " ++ path⟩
  | noFile => ⟨.configuration, "No config file found in any of the standard locations"⟩
  | unreadable reason => ⟨.configuration, "Failed to read config file: " ++ reason.message⟩
  | unknownFormat extension => ⟨.configuration, "Unsupported config format: " ++ extension⟩
  | badToml => ⟨.configuration, "Invalid TOML format"⟩
  | badJson => ⟨.configuration, "Invalid JSON format"⟩
  | loggingTaken =>
    ⟨.internal,
      "Failed to initialise tracing: a global default trace dispatcher has already been set"⟩

end SetupError

/-- Settings that are in order. -/
def Settings.checked (s : Settings) : Except SetupError Settings :=
  match s.validate with
  | .ok () => .ok s
  | .error e => .error (.settings e)

/-- Settings in order pass the check as they are. -/
theorem Settings.checked_of_validate {s : Settings} (h : s.validate = .ok ()) :
    s.checked = .ok s := by
  simp [checked, h]

/-- Of settings that are out of order the check says what is wrong. -/
theorem Settings.checked_of_invalid {s : Settings} {e : SettingsError}
    (h : s.validate = .error e) : s.checked = .error (.settings e) := by
  simp [checked, h]

/-- The policies of settings that are in order, unless a policy is refused for a reason of its
own. -/
def Settings.toDefaults (s : Settings) : Except SetupError Defaults :=
  match s.validate with
  | .error e => .error (.settings e)
  | .ok () =>
    match s.policies.validate with
    | .error e => .error (.policy e)
    | .ok () => .ok s.policies

/-- Installing a log sink for the whole process fails once there is one. -/
def installLogging (taken : Bool) : Except SetupError Unit :=
  if taken then .error .loggingTaken else .ok ()

end Safeguard
