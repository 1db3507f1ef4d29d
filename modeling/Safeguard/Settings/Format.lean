import Safeguard.Document.Json
import Safeguard.Document.Toml
import Safeguard.Settings.Codec

/-!
# Settings as text

Settings are read from JSON or TOML, and written as JSON.
-/

namespace Safeguard

/-- The formats in which settings can be written. -/
inductive SettingsFormat
  | json
  | toml
deriving DecidableEq

namespace SettingsFormat

/-- The extension of files in a format. -/
def extension : SettingsFormat → String
  | json => "json"
  | toml => "toml"

/-- The format of files with a given extension. -/
def ofExtension? (s : String) : Option SettingsFormat := [json, toml].find? (·.extension == s)

/-- The settings that a text in a format describes. -/
def read? (s : String) : SettingsFormat → Option Settings
  | json => (Document.ofJson? s).bind (Settings.ofDocument? Document.Json.dialect)
  | toml => (Document.ofToml? s).bind (Settings.ofDocument? Document.Toml.dialect)

end SettingsFormat

namespace Settings

variable (s : Settings)

/-- Settings as JSON text. -/
def toJson : String := s.toDocument.toJson

/-- Whether settings come back from their JSON text as they were. Spans of time that are no whole
milliseconds do not. -/
def survivesJson : Bool := (SettingsFormat.json.read? s.toJson).any s.same

end Settings

end Safeguard
