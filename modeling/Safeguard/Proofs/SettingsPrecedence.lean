import Mathlib.Data.List.Find
import Safeguard.Proofs.OverridesFault
import Safeguard.Proofs.SettingsPolicies

/-!
# One source of settings

Settings are looked for in the environment, then in a settings file, and then they are the standard.
The sources are never mixed and none makes up for another: once a variable for a setting is there,
files are not looked at, and once a settings file is there, the ones behind it are not. So two sites
that differ only in what is not looked at have the same settings.

## Key results

- `Site.settings_of_environment`, `Site.settings_of_probe?`, `Site.settings_of_no_source`: the three
  sources
- `Site.settingsAt_congr`: the settings in a file depend on what it holds
- `Site.one_source_decides`: which source decides, and what plays no part then
-/

namespace Safeguard.Site

variable {s s' : Site} {env : Environment} {path : String}

/-- What is at a path decides about the settings there. -/
theorem settingsAt_congr (h : (s.fileAt? path).isSome) (hsame : s'.fileAt? path = s.fileAt? path) :
    s'.settingsAt path = s.settingsAt path := by
  obtain ⟨content, hcontent⟩ := Option.isSome_iff_exists.1 h
  have hnode : s.files.resolve? s.directory path = some (.file content) :=
    FileTree.fileAt?_eq_some_iff.1 hcontent
  have hnode' : s'.files.resolve? s'.directory path = some (.file content) :=
    FileTree.fileAt?_eq_some_iff.1 (hsame.trans hcontent)
  simp only [settingsAt, hnode, hnode']

/-- The settings depend on the variables for settings, and on what is in the usual places. -/
theorem settingsWith_congr {env' : Environment}
    (henv : ∀ v ∈ Environment.settingVariables, env'.get? v.name = env.get? v.name)
    (hfiles : ∀ p ∈ candidates, s'.fileAt? p = s.fileAt? p) :
    s'.settingsWith env' = s.settingsWith env := by
  have hprobe : s'.probe? = s.probe? := List.find?_congr fun p hp => by rw [hfiles p hp]
  unfold settingsWith
  rw [Environment.hasSettings_congr henv, Environment.settings_congr henv, hprobe]
  -- The file that is found is one of the usual places, where both sites hold the same.
  cases hfound : s.probe? with
  | none => rfl
  | some path =>
    unfold probe? at hfound
    have hpath := List.find?_some hfound
    have hplace : path ∈ candidates := List.mem_of_find?_eq_some hfound
    simp only [settingsAt_congr hpath (hfiles path hplace)]

/-- The first of the usual places that holds a file is found. -/
private theorem probe?_of_first {before after : List String}
    (hplaces : candidates = before ++ path :: after)
    (hbefore : ∀ p ∈ before, s.fileAt? p = none) (h : (s.fileAt? path).isSome) :
    s.probe? = some path := by
  unfold probe?
  rw [List.find?_eq_some_iff_append]
  exact ⟨h, before, after, hplaces, fun p hp => by simp [hbefore p hp]⟩

theorem effectiveEnvironment_of_file {file : EnvFile} (h : s.envFile? = some file) :
    s.effectiveEnvironment = file.applyTo s.environment := by
  unfold effectiveEnvironment
  rw [h]

theorem effectiveEnvironment_of_no_file (h : s.envFile? = none) :
    s.effectiveEnvironment = .returned s.environment := by
  unfold effectiveEnvironment
  rw [h]

/-- The variables in effect depend on the environment and the file of variables. -/
private theorem effectiveEnvironment_congr (henv : s'.environment = s.environment)
    (hfile : s'.envFile? = s.envFile?) : s'.effectiveEnvironment = s.effectiveEnvironment := by
  unfold effectiveEnvironment
  rw [henv, hfile]

/-! ## The three sources -/

/-- A variable for a setting makes the environment the source. -/
theorem settings_of_environment (henv : s.effectiveEnvironment = .returned env)
    (h : env.hasSettings = true) : s.settings = .returned env.settings := by
  rw [settings, henv, Ending.map_returned, settingsWith, if_pos h]

/-- What is found first is read, and is the source even if it cannot be read. -/
theorem settings_of_probe? (henv : s.effectiveEnvironment = .returned env)
    (h : env.hasSettings = false) (hpath : s.probe? = some path) :
    s.settings = .returned (s.settingsAt path) := by
  rw [settings, henv, Ending.map_returned, settingsWith, h, hpath]
  rfl

/-- Without variables and files the settings are the standard. -/
theorem settings_of_no_source (henv : s.effectiveEnvironment = .returned env)
    (h : env.hasSettings = false) (hnone : s.probe? = none) :
    s.settings = .returned (.ok .standard) := by
  rw [settings, henv, Ending.map_returned, settingsWith, h, hnone]
  rfl

/-! ## Precedence -/

/-- One source decides about the settings of a site, whatever is in its environment, its file of
variables and its files. Settings that are found are in order. With the file of variables in effect,
unless that is a panic:

* If a variable for a setting is there, with any value, the settings are those of the environment.
  If such a variable cannot be read, the first one in the order of reading is named by the error. A
  site with the same environment and the same file of variables has the same settings, whatever
  other files it has.
* If no such variable is there, the first of the twelve usual places that holds a file decides, and
  the settings are those in that file, or what is wrong with it. A site that has the same file there
  and none in front of it has the same settings, whatever is in the places behind it.
* If there is no such file either, every setting has its standard. -/
theorem one_source_decides (s : Site) :
    let places := ["fortify.toml", "fortify.json", "config.toml", "config.json",
      "../fortify.toml", "../fortify.json", "../config.toml", "../config.json",
      "../../fortify.toml", "../../fortify.json", "../../config.toml", "../../config.json"]
    (∀ t, s.settings = .returned (.ok t) → t.validate = .ok ()) ∧
    (∀ message, s.effectiveEnvironment = .panicked message → s.settings = .panicked message) ∧
    ∀ env, s.effectiveEnvironment = .returned env →
      ((∃ v ∈ Environment.settingVariables, (env.get? v.name).isSome) →
        s.settings = .returned env.settings ∧
        (∀ v, Environment.settingVariables.find? (fun v => (env.fault? v).isSome) = some v →
          ∃ e, env.fault? v = some e ∧ s.settings = .returned (.error e) ∧
            v.name.toList <:+: e.complaint.text.toList) ∧
        ∀ s' : Site, s'.environment = s.environment → s'.envFile? = s.envFile? →
          s'.settings = s.settings) ∧
      ((∀ v ∈ Environment.settingVariables, env.get? v.name = none) →
        (∀ before path after, places = before ++ path :: after →
          (∀ p ∈ before, s.fileAt? p = none) → (s.fileAt? path).isSome →
          s.settings = .returned (s.settingsIn (some path)) ∧
          ∀ s' : Site, s'.environment = s.environment → s'.envFile? = s.envFile? →
            (∀ p ∈ before, s'.fileAt? p = none) → s'.fileAt? path = s.fileAt? path →
            s'.settings = s.settings) ∧
        ((∀ p ∈ places, s.fileAt? p = none) → s.settings = .returned (.ok .standard))) := by
  intro places
  have hplaces : candidates = places := by decide +kernel
  -- Each source is settled by the lemma on it, for both sites where a second one is compared.
  refine ⟨fun t => validate_of_settings, fun message hpanic => by rw [settings, hpanic]; rfl,
    fun env henv => ⟨fun hset => ?_, fun hunset => ?_⟩⟩
  · -- The environment decides.
    have hsettings : env.hasSettings = true := Environment.hasSettings_iff.2 hset
    have hfound := settings_of_environment henv hsettings
    refine ⟨hfound, fun v hv => ?_, fun s' hsame hfile => ?_⟩
    · obtain ⟨e, he, herror⟩ := Environment.settings_of_fault hv
      exact ⟨e, he, by rw [hfound, herror], Environment.isInfix_of_fault? he⟩
    · have henv' : s'.effectiveEnvironment = .returned env :=
        (effectiveEnvironment_congr hsame hfile).trans henv
      rw [hfound, settings_of_environment henv' hsettings]
  · have hsettings : env.hasSettings = false := by
      rw [Bool.eq_false_iff, ne_eq, Environment.hasSettings_iff]
      simpa using hunset
    refine ⟨fun before path after hsplit hbefore hpath => ?_, fun hnone => ?_⟩
    · -- The first file decides.
      rw [← hplaces] at hsplit
      have hfound := settings_of_probe? henv hsettings (probe?_of_first hsplit hbefore hpath)
      -- The other site has the same variables in effect and finds the same file first.
      refine ⟨hfound, fun s' hsame hfile hbefore' hpath' => ?_⟩
      have henv' : s'.effectiveEnvironment = .returned env :=
        (effectiveEnvironment_congr hsame hfile).trans henv
      have hprobe' : s'.probe? = some path :=
        probe?_of_first hsplit hbefore' (by rw [hpath']; exact hpath)
      rw [hfound, settings_of_probe? henv' hsettings hprobe', settingsAt_congr hpath hpath']
    · refine settings_of_no_source henv hsettings ?_
      rw [probe?, hplaces, List.find?_eq_none]
      intro p hp
      simp [hnone p hp]

/-- A variable that is there with an empty value, one behind it that a file of variables has given a
value that is no mode, and a settings file that is not looked at; a settings file that cannot be
read, and one above it that could; and nothing at all. -/
theorem one_source_decides_found :
    let file (path text : String) : String × List UInt8 := (path, text.toUTF8.toList)
    let dotEnv := file "a/.env" "FORTIFY_TIMEOUT_MODE=abort\n"
    let above := file "a/fortify.toml" "[retry]\nmax_attempts = 11\n"
    let wrong := file "a/b/fortify.json" "\x7b"
    let assigned := Site.make [("FORTIFY_TIMEOUT_MS", [])] [dotEnv, above] [] "a/b"
    let filed := Site.make [] [wrong, above] [] "a/b"
    (assigned.settings = .returned (.error (.badVariable "FORTIFY_TIMEOUT_MS" ""
        "cannot parse integer from empty string")) ∧
      (Site.make [("FORTIFY_TIMEOUT_MS", [])] [dotEnv, wrong] [] "a/b").settings =
        assigned.settings) ∧
    (filed.settings = .returned (filed.settingsIn (some "fortify.json")) ∧
      filed.settingsIn (some "fortify.json") = .error .badJson ∧
      (Site.make [] [wrong, file "a/b/config.toml" ""] [] "a/b").settings = filed.settings) ∧
    (Site.make [] [] [] "a/b").settings = .returned (.ok .standard) := by
  intro file dotEnv above wrong assigned filed
  -- The variables in effect at the first site, and the one that is at fault first.
  let mode : SettingVariable := ⟨"FORTIFY_TIMEOUT_MODE", .mode⟩
  let limit : SettingVariable := ⟨"FORTIFY_TIMEOUT_MS", .word64⟩
  let env : Environment :=
    ⟨[("FORTIFY_TIMEOUT_MODE", .text "abort"), ("FORTIFY_TIMEOUT_MS", .text "")]⟩
  obtain ⟨-, -, hassigned⟩ := one_source_decides assigned
  obtain ⟨-, -, hfiled⟩ := one_source_decides filed
  obtain ⟨-, -, hnothing⟩ := one_source_decides (Site.make [] [] [] "a/b")
  obtain ⟨hthere, -⟩ := hassigned env (by decide +kernel)
  obtain ⟨-, hfault, hothers⟩ := hthere ⟨mode, by simp [Environment.settingVariables, mode],
    by decide +kernel⟩
  obtain ⟨e, he, herror, -⟩ := hfault limit (by decide +kernel)
  obtain ⟨-, hnotThere⟩ := hfiled ⟨[]⟩ (by decide +kernel)
  obtain ⟨hfirst, -⟩ := hnotThere (fun _ _ => rfl)
  obtain ⟨hread, hbehind⟩ := hfirst ["fortify.toml"] "fortify.json" _ rfl (by decide +kernel)
    (by decide +kernel)
  obtain ⟨-, hempty⟩ := hnothing ⟨[]⟩ (by decide +kernel)
  refine ⟨⟨?_, hothers _ rfl (by decide +kernel)⟩, ⟨hread, by decide +kernel, ?_⟩, ?_⟩
  · rw [herror]
    have hlimit : env.fault? limit = some (.badVariable "FORTIFY_TIMEOUT_MS" ""
      "cannot parse integer from empty string") := by decide +kernel
    rw [Option.some.inj (he.symm.trans hlimit)]
  · exact hbehind _ rfl (by decide +kernel) (by decide +kernel) (by decide +kernel)
  · exact (hempty fun _ _ => rfl).2 (by decide +kernel)

end Safeguard.Site
