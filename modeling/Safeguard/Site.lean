import Safeguard.EnvFile
import Safeguard.FileTree
import Safeguard.Settings.Format
import Safeguard.Settings.Overrides

/-!
# Finding the settings

A site is where a process is started: its environment, the files, and the directory it works in.
Settings come from one source only. Once a variable for a setting is there, in the environment or in
a file of variables, no settings file is looked at; otherwise the first settings file in the usual
places decides; and if there is none, every setting keeps its standard.
-/

namespace Safeguard

/-- Where a process is started. -/
structure Site where
  environment : Environment
  files : FileTree
  /-- The path of the working directory from the root. -/
  directory : List String

namespace Site

/-- The site with given variables, files, empty directories and working directory; paths are
relative to the root. -/
def make (given files : List (String × List UInt8)) (directories : List String)
    (directory : String) : Site :=
  let path (s : String) : List String := FileTree.normalize (FileTree.names s)
  { environment := ⟨given.map fun (name, value) => (name, .ofBytes value)⟩
    files := {
      files := files.map fun (name, content) => (path name, content)
      directories := path directory :: directories.map path }
    directory := path directory }

/-- The names of settings files, in the order in which they are looked for. -/
def fileNames : List String := ["fortify.toml", "fortify.json", "config.toml", "config.json"]

/-- The paths at which settings files are looked for: in the working directory, in its parent and in
the parent of that. -/
def candidates : List String := ["", "../", "../../"].flatMap fun up => fileNames.map (up ++ ·)

variable (s : Site)

/-- The content of the file at a path. -/
def fileAt? (path : String) : Option (List UInt8) := s.files.fileAt? s.directory path

/-- The path of the settings file that is found first. -/
def probe? : Option String := candidates.find? fun path => (s.fileAt? path).isSome

/-- A path from the working directory as a path from the root. -/
def pathFromRoot (path : String) : String := "/".intercalate (s.directory ++ [path])

/-- The settings in a text, by the extension of its file; without one it is taken for JSON. -/
def parse (path text : String) : Except SetupError Settings :=
  let extension := (FileTree.extension? path).getD SettingsFormat.json.extension
  match SettingsFormat.ofExtension? extension with
  | none => .error (.unknownFormat extension)
  | some format =>
    match format.read? text, format with
    | some settings, _ => .ok settings
    | none, .json => .error .badJson
    | none, .toml => .error .badToml

/-- The settings in the file at a path. -/
def settingsAt (path : String) : Except SetupError Settings :=
  match s.files.resolve? s.directory path with
  | none => .error (.noSuchFile path)
  | some .directory => .error (.unreadable .isDirectory)
  | some (.file content) =>
    match String.fromUTF8? ⟨content.toArray⟩ with
    | none => .error (.unreadable .notText)
    | some text => do (← parse path text).checked

/-- The settings in a given file, or else in the one that is found first. -/
def settingsIn (path : Option String) : Except SetupError Settings :=
  match path.or s.probe? with
  | some path => s.settingsAt path
  | none => .error .noFile

/-- The file of variables: the one in the working directory, or else in the closest directory above
that has one. -/
def envFile? : Option EnvFile :=
  let directories := (List.range (s.directory.length + 1)).map fun n =>
    s.directory.take (s.directory.length - n)
  (directories.findSome? fun directory => s.files.fileAt? directory EnvFile.fileName).map
    EnvFile.ofBytes

/-- The environment with the file of variables in effect. -/
def effectiveEnvironment : Ending Environment :=
  match s.envFile? with
  | some file => file.applyTo s.environment
  | none => .returned s.environment

/-- The settings of a site with given variables. -/
def settingsWith (env : Environment) : Except SetupError Settings :=
  if env.hasSettings then env.settings
  else
    match s.probe? with
    | some path => s.settingsAt path
    | none => .ok .standard

/-- The settings of a site. -/
def settings : Ending (Except SetupError Settings) := s.effectiveEnvironment.map s.settingsWith

/-- The policies that the settings of a site describe. -/
def defaults : Ending (Except SetupError Defaults) :=
  s.settings.map fun result => do (← result).toDefaults

end Site

end Safeguard
