import Mathlib
import Safeguard.Proofs.EnvironmentOverrides
import Safeguard.Proofs.SettingsDocument
import Safeguard.Site

/-!
# Settings from the environment and from a file

The variables and the document of a settings file are read in different ways, and only the check at
the end is common to both. Nevertheless they agree: if the same settings are assigned the same
values in either place, what is found is the same, or what is wrong with it.

## Key results

- `Overrides.overlaid_applyTo`: the standard settings with new values, setting by setting
- `Site.settingsIn_of_text`: the settings in a file are those of its document
- `Site.environment_agrees_with_file`: both sources give the same settings
-/

namespace Safeguard

/-- The settings are the new values where there are any, and the standard everywhere else. -/
structure Overrides.Overlaid (o : Overrides) (s : Settings) : Prop where
  maxAttempts : s.retry.maxAttempts = o.maxAttempts.getD Settings.standard.retry.maxAttempts
  initialDelay :
    s.retry.initialDelay = o.initialDelay.elim Settings.standard.retry.initialDelay .ofMillis
  maxDelay : s.retry.maxDelay = o.maxDelay.elim Settings.standard.retry.maxDelay .ofMillis
  multiplier : s.retry.multiplier = o.multiplier.getD Settings.standard.retry.multiplier
  failureThreshold :
    s.breaker.failureThreshold = o.failureThreshold.getD Settings.standard.breaker.failureThreshold
  resetTimeout :
    s.breaker.resetTimeout = o.resetTimeout.elim Settings.standard.breaker.resetTimeout .ofMillis
  successThreshold :
    s.breaker.successThreshold = o.successThreshold.getD Settings.standard.breaker.successThreshold
  maxConcurrent :
    s.bulkhead.maxConcurrent = o.maxConcurrent.getD Settings.standard.bulkhead.maxConcurrent
  limit : s.timeout.limit = o.limit.elim Settings.standard.timeout.limit (some <| .ofMillis ·)
  mode : s.timeout.mode = o.mode.getD Settings.standard.timeout.mode

/-- The new values put over the standard settings are such settings. -/
theorem Overrides.overlaid_applyTo (o : Overrides) : o.Overlaid (o.applyTo .standard) where
  maxAttempts := rfl
  initialDelay := by cases h : o.initialDelay <;> simp [applyTo, h]
  maxDelay := by cases h : o.maxDelay <;> simp [applyTo, h]
  multiplier := rfl
  failureThreshold := rfl
  resetTimeout := by cases h : o.resetTimeout <;> simp [applyTo, h]
  successThreshold := rfl
  maxConcurrent := rfl
  limit := by cases h : o.limit <;> simp [applyTo, h]
  mode := rfl

/-- There are no others: every setting is one or the other. -/
theorem Overrides.Overlaid.eq {o : Overrides} {s t : Settings} (hs : o.Overlaid s)
    (ht : o.Overlaid t) : s = t := by
  -- Setting by setting, as each is determined by the new values.
  obtain ⟨⟨_, _, _, _⟩, ⟨_, _, _⟩, ⟨_⟩, ⟨_, _⟩⟩ := s
  obtain ⟨⟨_, _, _, _⟩, ⟨_, _, _⟩, ⟨_⟩, ⟨_, _⟩⟩ := t
  congr 2
  · exact hs.maxAttempts.trans ht.maxAttempts.symm
  · exact hs.initialDelay.trans ht.initialDelay.symm
  · exact hs.maxDelay.trans ht.maxDelay.symm
  · exact hs.multiplier.trans ht.multiplier.symm
  · exact hs.failureThreshold.trans ht.failureThreshold.symm
  · exact hs.resetTimeout.trans ht.resetTimeout.symm
  · exact hs.successThreshold.trans ht.successThreshold.symm
  · exact hs.maxConcurrent.trans ht.maxConcurrent.symm
  · exact hs.limit.trans ht.limit.symm
  · exact hs.mode.trans ht.mode.symm

/-! ## Settings in a file -/

namespace SettingsFormat

/-- The dialect of documents in a format. -/
def dialect : SettingsFormat → Dialect
  | json => Document.Json.dialect
  | toml => Document.Toml.dialect

/-- The document that a text in a format denotes. -/
def document? (format : SettingsFormat) (text : String) : Option Document :=
  match format with
  | json => Document.ofJson? text
  | toml => Document.ofToml? text

/-- The format of the file at a path. -/
def ofPath? (path : String) : Option SettingsFormat :=
  ofExtension? ((FileTree.extension? path).getD json.extension)

/-- A text is read in two steps: its document, and the settings in that. -/
private theorem read?_eq (format : SettingsFormat) (text : String) :
    format.read? text = (format.document? text).bind (Settings.ofDocument? format.dialect) := by
  cases format <;> rfl

end SettingsFormat

namespace Site

variable {s : Site} {path text : String} {format : SettingsFormat} {t : Settings}

/-- There is a file at a path, and its content is a text. -/
def HasText (s : Site) (path text : String) : Prop :=
  ∃ content, s.fileAt? path = some content ∧ String.fromUTF8? ⟨content.toArray⟩ = some text

/-- The text of a file is parsed in the format of its path. -/
private theorem parse_of_read? (hformat : SettingsFormat.ofPath? path = some format)
    (hread : format.read? text = some t) : parse path text = .ok t := by
  unfold SettingsFormat.ofPath? at hformat
  simp only [parse, hformat, hread]

/-- The settings in a file are what its text says, if that is in order. -/
private theorem settingsAt_of_text (h : s.HasText path text)
    (hformat : SettingsFormat.ofPath? path = some format)
    (hread : format.read? text = some t) : s.settingsAt path = t.checked := by
  obtain ⟨content, hfile, htext⟩ := h
  -- A file with a content is not a directory.
  have hnode : s.files.resolve? s.directory path = some (.file content) :=
    FileTree.fileAt?_eq_some_iff.1 hfile
  simp only [settingsAt, hnode, htext, parse_of_read? hformat hread]
  rfl

/-- The settings that are found are those of the file that was asked for, or of the one that is
there. -/
theorem settingsIn_of_text {asked : Option String} (hpath : asked.or s.probe? = some path)
    (h : s.HasText path text) (hformat : SettingsFormat.ofPath? path = some format)
    (hread : format.read? text = some t) : s.settingsIn asked = t.checked := by
  simp only [settingsIn, hpath, settingsAt_of_text h hformat hread]

/-! ## Agreement -/

/-- If an environment and the document in a settings file assign the same values to the same
settings, and none to the others, then the standard settings with these values are found in either
place if they are in order, and if they are not, what is wrong with them. The variables may have
blanks around their values, the entries of the document may be in any order, and the file may be
asked for or found. -/
theorem environment_agrees_with_file {env : Environment} {o : Overrides} {asked : Option String}
    {v : Document} (henv : env.Assigns o) (hpath : asked.or s.probe? = some path)
    (htext : s.HasText path text) (hformat : SettingsFormat.ofPath? path = some format)
    (hdocument : format.document? text = some v) (hwritten : o.WrittenIn v) :
    ∃ t, o.Overlaid t ∧
      (t.validate = .ok () → env.settings = .ok t ∧ s.settingsIn asked = .ok t) ∧
      ∀ e, t.validate = .error e →
        env.settings = .error (.settings e) ∧ s.settingsIn asked = .error (.settings e) := by
  -- Either way of reading ends in the same new values, and they are checked in the same way.
  have hvariables : env.settings = (o.applyTo .standard).checked := by
    rw [Environment.settings, Environment.overrides_of_assigns henv]
    rfl
  have hfile : s.settingsIn asked = (o.applyTo .standard).checked := by
    apply settingsIn_of_text hpath htext hformat
    rw [SettingsFormat.read?_eq, hdocument]
    exact Overrides.ofDocument?_eq hwritten
  rw [hvariables, hfile]
  refine ⟨o.applyTo .standard, o.overlaid_applyTo, fun hvalid => ?_, fun e hinvalid => ?_⟩
  · rw [Settings.checked_of_validate hvalid]
    exact ⟨rfl, rfl⟩
  · rw [Settings.checked_of_invalid hinvalid]
    exact ⟨rfl, rfl⟩

/-- Three settings, assigned among other variables and written in another order. The multiplier is
out of order. -/
theorem environment_agrees_with_file_found :
    let env : Environment := ⟨[
      ("FORTIFY_RETRY_BACKOFF_MULTIPLIER", .text "+0.00"),
      ("HOME", .text "/"),
      ("FORTIFY_TIMEOUT_MS", .text "9223372036854775807\u00a0"),
      ("FORTIFY_TIMEOUT_MODE", .text "\tadvisory\n")]⟩
    let o : Overrides := ⟨none, none, none, some (.ofNat 0), none, none, none, none,
      some 9223372036854775807, some .advisory⟩
    let text := "[timeout]\nmode = \"advisory\"\nduration_ms = 9223372036854775807\n" ++
      "[retry]\nbackoff_multiplier = 0"
    let v : Document := .table [
      (some "timeout", .table [(some "mode", .text "advisory"),
        (some "duration_ms", .integer 9223372036854775807)]),
      (some "retry", .table [(some "backoff_multiplier", .integer 0)])]
    let s := Site.make [] [("config.toml", text.toUTF8.toList)] [] "/"
    env.Assigns o ∧ none.or s.probe? = some "config.toml" ∧ s.HasText "config.toml" text ∧
    SettingsFormat.ofPath? "config.toml" = some .toml ∧
    SettingsFormat.toml.document? text = some v ∧ o.WrittenIn v ∧
    env.settings = .error (.settings (.multiplierOutOfRange (.ofNat 0))) ∧
    s.settingsIn none = .error (.settings (.multiplierOutOfRange (.ofNat 0))) := by
  intro env o text v s
  -- Seven settings have no variable, and the other three have one with blanks or signs in it.
  have hassigns : env.Assigns o := by
    constructor
    · exact .none
    · exact .none
    · exact .none
    · exact .some ⟨"+0.00".toList, by decide +kernel, "+0.00", [], [], rfl, by decide +kernel,
        nofun, nofun⟩
    · exact .none
    · exact .none
    · exact .none
    · exact .none
    · exact .some ⟨"9223372036854775807\u00a0", [], ['\u00a0'], rfl, by decide +kernel, nofun,
        List.all_eq_true.1 (by decide)⟩
    · exact .some ⟨"\tadvisory\n", ['\t'], ['\n'], rfl, by decide +kernel,
        List.all_eq_true.1 (by decide), List.all_eq_true.1 (by decide)⟩
  have hwritten : o.WrittenIn v := by
    refine ⟨_, rfl, ⟨by decide, by simp⟩, ?_, ?_, ?_, ?_⟩
    · apply Field.sectionIn_of_lookup rfl
      exact ⟨⟨by decide, by simp⟩, .none, .none, .none,
        .some (.inr ⟨0, by decide, by decide, rfl, rfl⟩)⟩
    · exact ⟨⟨by decide, by simp⟩, .none, .none, .none⟩
    · exact ⟨⟨by decide, by simp⟩, .none⟩
    · apply Field.sectionIn_of_lookup rfl
      exact ⟨⟨by decide, by simp⟩, .some rfl, .some rfl⟩
  have hprobe : none.or s.probe? = some "config.toml" := by decide +kernel
  have hfile : s.HasText "config.toml" text :=
    ⟨text.toUTF8.toList, by decide +kernel, by decide +kernel⟩
  have hformat : SettingsFormat.ofPath? "config.toml" = some .toml := by decide +kernel
  have hdocument : SettingsFormat.toml.document? text = some v := by
    dsimp only [text, v]
    cbv
  have hinvalid : (o.applyTo .standard).validate =
      .error (.multiplierOutOfRange (.ofNat 0)) := by decide +kernel
  obtain ⟨t, hoverlaid, -, hfaulty⟩ :=
    environment_agrees_with_file hassigns hprobe hfile hformat hdocument hwritten
  rw [← hoverlaid.eq o.overlaid_applyTo] at hinvalid
  exact ⟨hassigns, hprobe, hfile, hformat, hdocument, hwritten, hfaulty _ hinvalid⟩

end Site

end Safeguard
