import Safeguard.Proofs.SettingsPrecedence

/-!
# Files of variables with a fault

A file of variables is read and takes effect line by line. A line that cannot be read ends this, but
what the lines in front of it have set stays. So a file with a fault counts as far as its fault, and
if it has set a variable for a setting by then, the settings come from the environment, whatever
settings file there is.

## Key results

- `EnvFile.ofLines_append_of_isMalformed`: what is read of a file with a fault
- `EnvFile.get?_applyAll`: entries leave what is a text already
- `EnvFile.isSome_text?_of_mem`: after the entries of a file their variables are texts
- `Site.faulty_file_in_effect`: the settings with a faulty file of variables
- `Site.faulty_file_not_without_effect`: they are not those without the file
-/

namespace Safeguard

namespace Environment

variable {env after : Environment} {name value other : String}

/-- A text is read off the value. -/
private theorem text?_congr (h : after.get? name = env.get? name) :
    after.text? name = env.text? name := by
  rw [text?, h]
  rfl

/-- A text is a value. -/
private theorem isSet_of_isSome_text? (h : (env.text? name).isSome) : env.isSet name = true := by
  unfold text? at h
  unfold isSet
  cases hget : env.get? name with
  | none => simp [hget] at h
  | some => rfl

/-- A text that is offered is taken, unless there is one already. -/
private theorem returned_of_offer (h : env.offer name value = .returned after) :
    ((env.text? name).isSome ∧ after = env) ∨
      (env.text? name = none ∧ after = env.set name value) := by
  unfold offer at h
  split at h
  · next hthere =>
    cases h
    exact .inl ⟨hthere, rfl⟩
  · next habsent =>
    split at h
    -- A value that no variable can have is a panic.
    · cases h
    · cases h
      exact .inr ⟨Option.not_isSome_iff_eq_none.1 habsent, rfl⟩

/-- What is under a name stays when a text is offered, unless the name has none. -/
private theorem get?_of_offer (h : env.offer name value = .returned after)
    (hidle : name = other → (env.text? other).isSome) : after.get? other = env.get? other := by
  rcases returned_of_offer h with ⟨-, rfl⟩ | ⟨habsent, rfl⟩
  · rfl
  · refine get?_set_of_ne fun hsame => ?_
    subst hsame
    simp [habsent] at hidle

/-- After a text is offered there is one. -/
private theorem isSome_text?_of_offer (h : env.offer name value = .returned after) :
    (after.text? name).isSome := by
  rcases returned_of_offer h with ⟨hthere, rfl⟩ | ⟨-, rfl⟩
  · exact hthere
  · simp [text?]

end Environment

namespace EnvFile

/-! ## Reading up to a fault -/

/-- Whether a complete line cannot be read: it is no text, or it says what is no entry. -/
def isMalformed : Option (List Char) → Bool
  | none => true
  | some line => Line.read line = .fault

/-- A file has a fault if a line cannot be read. -/
private theorem faulty_ofLines (lines : List (Option (List Char))) :
    (ofLines lines).faulty = lines.any isMalformed := by
  induction lines with
  | nil => rfl
  | cons line rest ih =>
    cases line with
    | none => rfl
    | some line => cases hline : Line.read line <;> simp [ofLines, isMalformed, hline, ih]

/-- Nothing is read behind the first line that cannot be read. -/
theorem ofLines_append_of_isMalformed {good rest : List (Option (List Char))}
    {bad : Option (List Char)} (hgood : ∀ line ∈ good, isMalformed line = false)
    (hbad : isMalformed bad = true) :
    ofLines (good ++ bad :: rest) = ⟨(ofLines good).entries, true⟩ := by
  -- Induction on the lines in front of the fault, each of which is read.
  induction good with
  | nil =>
    cases bad with
    | none => rfl
    | some line =>
      have hline : Line.read line = .fault := by simpa [isMalformed] using hbad
      simp [ofLines, hline]
  | cons line good ih =>
    obtain ⟨hfirst, hlater⟩ := List.forall_mem_cons.1 hgood
    cases line with
    | none => cases hfirst
    | some line =>
      cases hline : Line.read line with
      | nothing => simp [ofLines, hline, ih hlater]
      | entry e => simp [ofLines, hline, ih hlater]
      | fault => simp [isMalformed, hline] at hfirst

/-- A file with a fault is cut at the first line that cannot be read. What stands in front of it is
a file without a fault, and all that is read. -/
private theorem cut_of_faulty {lines : List (Option (List Char))}
    (h : (ofLines lines).faulty = true) :
    ∃ good bad rest, lines = good ++ bad :: rest ∧ (∀ line ∈ good, isMalformed line = false) ∧
      isMalformed bad = true ∧ ofLines good = ⟨(ofLines lines).entries, false⟩ := by
  rw [faulty_ofLines, List.any_eq_true, ← List.find?_isSome] at h
  obtain ⟨bad, hfirst⟩ := Option.isSome_iff_exists.1 h
  -- The lines in front of the first one that cannot be read.
  obtain ⟨hbad, good, rest, rfl, hgood⟩ := List.find?_eq_some_iff_append.1 hfirst
  have hgood : ∀ line ∈ good, isMalformed line = false := by simpa using hgood
  refine ⟨good, bad, rest, rfl, hgood, hbad, ?_⟩
  have hsound : (ofLines good).faulty = false := by
    rw [faulty_ofLines, List.any_eq_false]
    simpa using hgood
  rw [ofLines_append_of_isMalformed hgood hbad, ← hsound]

/-! ## Taking effect -/

variable {es : List Entry} {env env' : Environment} {name : String}

/-- Entries take effect one after another, and none is a panic if the whole is none. -/
private theorem applyAll_cons_eq_returned {e : Entry} : applyAll (e :: es) env = .returned env' ↔
    ∃ mid, e.applyTo env = .returned mid ∧ applyAll es mid = .returned env' := by
  cases h : e.applyTo env <;> simp [applyAll, h]

/-- What is under a name stays, unless there is an entry for it and no text. -/
theorem get?_applyAll (h : applyAll es env = .returned env')
    (hidle : ∀ e ∈ es, e.name = name → (env.text? name).isSome) :
    env'.get? name = env.get? name := by
  -- By induction on the entries: the first one leaves the name, so what is asked for of the
  -- others is there still.
  induction es generalizing env with
  | nil =>
    cases h
    rfl
  | cons e es ih =>
    obtain ⟨hfirst, hlater⟩ := List.forall_mem_cons.1 hidle
    obtain ⟨mid, hoffer, hrest⟩ := applyAll_cons_eq_returned.1 h
    have hsame : mid.get? name = env.get? name := Environment.get?_of_offer hoffer hfirst
    have htext : mid.text? name = env.text? name := Environment.text?_congr hsame
    rw [ih hrest (htext ▸ hlater), hsame]

/-- A text that is there stays. -/
private theorem text?_applyAll (h : applyAll es env = .returned env')
    (hthere : (env.text? name).isSome) :
    env'.text? name = env.text? name :=
  Environment.text?_congr (get?_applyAll h fun _ _ _ => hthere)

/-- Every entry that has taken effect leaves a text under its name. -/
theorem isSome_text?_of_mem (h : applyAll es env = .returned env') {e : Entry} (he : e ∈ es) :
    (env'.text? e.name).isSome := by
  induction es generalizing env with
  | nil => cases he
  | cons first es ih =>
    obtain ⟨mid, hoffer, hrest⟩ := applyAll_cons_eq_returned.1 h
    rcases List.mem_cons.1 he with rfl | he
    · -- The text that this entry has left is there until the end.
      have hthere : (mid.text? e.name).isSome := Environment.isSome_text?_of_offer hoffer
      rw [text?_applyAll hrest hthere]
      exact hthere
    · exact ih hrest he

/-- A file leaves the variables for settings of an environment alone: those it has entries for are
texts already. -/
def SparesSettings (file : EnvFile) (env : Environment) : Prop :=
  ∀ e ∈ file.entries, e.name ∈ Environment.settingNames → (env.text? e.name).isSome

instance decidableSparesSettings (file : EnvFile) (env : Environment) :
    Decidable (file.SparesSettings env) :=
  inferInstanceAs (Decidable (∀ e ∈ file.entries, _ → _))

variable {file : EnvFile}

/-- A file that leaves the settings alone leaves the variables for them alone. -/
private theorem get?_of_sparesSettings (h : file.applyTo env = .returned env')
    (hspares : file.SparesSettings env) {v : SettingVariable}
    (hv : v ∈ Environment.settingVariables) : env'.get? v.name = env.get? v.name := by
  have hname : v.name ∈ Environment.settingNames := by
    rw [Environment.settingNames_eq]
    exact List.mem_map_of_mem hv
  refine get?_applyAll h fun e he hsame => ?_
  rw [← hsame] at hname ⊢
  exact hspares e he hname

/-- A file that does not leave them alone has set one of them. -/
private theorem hasSettings_of_not_sparesSettings (h : file.applyTo env = .returned env')
    (hspares : ¬ file.SparesSettings env) : env'.hasSettings = true := by
  obtain ⟨e, he, hname, -⟩ : ∃ e ∈ file.entries, e.name ∈ Environment.settingNames ∧
      ¬ (env.text? e.name).isSome := by simpa [SparesSettings] using hspares
  have htext : (env'.text? e.name).isSome := isSome_text?_of_mem h he
  exact List.any_eq_true.2 ⟨e.name, hname, Environment.isSet_of_isSome_text? htext⟩

end EnvFile

/-! ## The settings -/

namespace Site

/-- A site has the same environment as another one, and the same files in the usual places. It may
have another file of variables. -/
structure Agrees (t s : Site) : Prop where
  environment : t.environment = s.environment
  files : ∀ p ∈ candidates, t.fileAt? p = s.fileAt? p

/-- A file of variables with a fault takes effect as far as its fault, as if it ended in front of
the first line that cannot be read. If it has a value that no variable can have by then, that is a
panic. If all it has for settings are variables that are texts already, it plays no part in the
settings. Otherwise the settings are those of the environment with the variables up to the fault. -/
theorem faulty_file_in_effect {s : Site} {bytes : List UInt8}
    (hfile : s.envFile? = some (.ofBytes bytes)) (hfaulty : (EnvFile.ofBytes bytes).faulty = true) :
    let file := EnvFile.ofBytes bytes
    (∃ good bad rest, EnvFile.linesOf bytes = good ++ bad :: rest ∧
      (∀ line ∈ good, EnvFile.isMalformed line = false) ∧ EnvFile.isMalformed bad = true ∧
      EnvFile.ofLines good = ⟨file.entries, false⟩) ∧
    (∀ t : Site, t.Agrees s → t.envFile? = some ⟨file.entries, false⟩ → s.settings = t.settings) ∧
    (∀ message, file.applyTo s.environment = .panicked message →
      s.settings = .panicked message) ∧
    ∀ env, file.applyTo s.environment = .returned env →
      (file.SparesSettings s.environment →
        ∀ t : Site, t.Agrees s → t.envFile? = none → s.settings = t.settings) ∧
      (¬ file.SparesSettings s.environment →
        env.hasSettings = true ∧ s.settings = .returned env.settings) := by
  intro file
  have heffective : s.effectiveEnvironment = file.applyTo s.environment :=
    effectiveEnvironment_of_file hfile
  refine ⟨EnvFile.cut_of_faulty hfaulty, ?_, ?_, fun env hreturned => ⟨?_, fun hspares => ?_⟩⟩
  · rintro t ⟨henv, hfiles⟩ hcut
    -- Only the entries of a file take effect, whether it has a fault or not.
    have hsame : t.effectiveEnvironment = file.applyTo s.environment := by
      rw [effectiveEnvironment_of_file hcut, henv]
      rfl
    have hsettings : t.settingsWith = s.settingsWith := by
      funext env
      exact settingsWith_congr (fun _ _ => rfl) hfiles
    rw [settings, settings, heffective, hsame, hsettings]
  · intro message hpanicked
    rw [settings, heffective, hpanicked, Ending.map_panicked]
  · rintro hspares t ⟨henv, hfiles⟩ hnone
    have hsame : t.effectiveEnvironment = .returned s.environment := by
      rw [effectiveEnvironment_of_no_file hnone, henv]
    have hsettings : t.settingsWith s.environment = s.settingsWith env :=
      settingsWith_congr (fun v hv => (EnvFile.get?_of_sparesSettings hreturned hspares hv).symm)
        hfiles
    rw [settings, settings, heffective, hreturned, hsame, Ending.map_returned, Ending.map_returned,
      hsettings]
  · have hthere : env.hasSettings = true :=
      EnvFile.hasSettings_of_not_sparesSettings hreturned hspares
    exact ⟨hthere, settings_of_environment (heffective.trans hreturned) hthere⟩

/-- Variables in front of a fault and behind it. In an environment that has the first one as a text
already they play no part. Without it the one in front of the fault decides, and the settings file
is not looked at. -/
theorem faulty_file_in_effect_halfway :
    let file (path text : String) : String × List UInt8 := (path, text.toUTF8.toList)
    let bytes := "FORTIFY_TIMEOUT_MS=1\nnot valid\nFORTIFY_TIMEOUT_MODE=advisory\n".toUTF8.toList
    let filed := file "fortify.toml" "[retry]\nmax_attempts = 11\n"
    let given := [("FORTIFY_TIMEOUT_MS", "5".toUTF8.toList)]
    let spared := Site.make given [(".env", bytes), filed] [] ""
    let changed := Site.make [] [(".env", bytes), filed] [] ""
    (EnvFile.ofBytes bytes).faulty = true ∧
    (EnvFile.ofBytes bytes).SparesSettings spared.environment ∧
    ¬ (EnvFile.ofBytes bytes).SparesSettings changed.environment ∧
    spared.settings = (Site.make given [filed] [] "").settings ∧
    changed.settings =
      .returned (Environment.settings ⟨[("FORTIFY_TIMEOUT_MS", .text "1")]⟩) := by
  intro file bytes filed given spared changed
  have hfaulty : (EnvFile.ofBytes bytes).faulty = true := by decide +kernel
  have hspared : (EnvFile.ofBytes bytes).SparesSettings spared.environment := by decide +kernel
  have hchanged : ¬ (EnvFile.ofBytes bytes).SparesSettings changed.environment := by decide +kernel
  have hfile : spared.envFile? = some (.ofBytes bytes) := by decide +kernel
  have hfile' : changed.envFile? = some (.ofBytes bytes) := by decide +kernel
  obtain ⟨-, -, -, hin⟩ := faulty_file_in_effect hfile hfaulty
  obtain ⟨-, -, -, hin'⟩ := faulty_file_in_effect hfile' hfaulty
  obtain ⟨hwithout, -⟩ := hin spared.environment (by decide +kernel)
  obtain ⟨-, hdecides⟩ := hin' ⟨[("FORTIFY_TIMEOUT_MS", .text "1")]⟩ (by decide +kernel)
  exact ⟨hfaulty, hspared, hchanged,
    hwithout hspared _ ⟨rfl, by decide +kernel⟩ (by decide +kernel), (hdecides hchanged).2⟩

/-- A file of variables with a fault, without which the settings would be those in a settings
file. -/
theorem faulty_file_not_without_effect :
    let file (path text : String) : String × List UInt8 := (path, text.toUTF8.toList)
    let bytes := "FORTIFY_TIMEOUT_MS=1\nnot valid\n".toUTF8.toList
    let filed := file "fortify.toml" "[retry]\nmax_attempts = 11\n"
    (EnvFile.ofBytes bytes).faulty = true ∧
    (Site.make [] [(".env", bytes), filed] [] "").settings =
      .returned (.ok { Settings.standard with timeout.limit := some (.ofMillis 1) }) ∧
    (Site.make [] [filed] [] "").settings =
      .returned (.ok { Settings.standard with retry.maxAttempts := 11 }) := by
  decide +kernel

end Site

end Safeguard
