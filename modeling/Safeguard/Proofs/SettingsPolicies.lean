import Safeguard.Site

/-!
# From settings to policies

Settings are checked section by section, and so are the policies that are made from them. The checks
of a section and of its policy agree, but for the bulkhead: its policy has an upper limit that the
section does not know of. So settings that are in order describe policies that are, unless they ask
for more permits than a bulkhead can hold.

## Key results

- `Settings.validate_policies`: the checks of the policies of settings that are in order
- `Settings.describes_iff`: what the policies say
- `Settings.toDefaults_of_validate`: from settings that are in order to policies
- `Environment.validate_of_settings`, `Site.validate_of_settings`: what is found is in order
- `Settings.accepted_up_to_permits`: which settings describe policies
-/

namespace Safeguard

/-- What is computed in two steps comes from both of them. -/
private theorem Except.bind_eq_ok {α β ε : Type} {x : Except ε α} {f : α → Except ε β} {b : β} :
    (x >>= f) = .ok b ↔ ∃ a, x = .ok a ∧ f a = .ok b := by
  cases x with
  | error e => simp [bind, Except.bind]
  | ok a => simp [bind, Except.bind]

namespace Settings

variable {s : Settings}

/-! ## Section by section -/

/-- Settings are in order if each of their sections is. -/
theorem sections_of_validate (h : s.validate = .ok ()) :
    s.retry.validate = .ok () ∧ s.breaker.validate = .ok () ∧ s.bulkhead.validate = .ok () ∧
      s.timeout.validate = .ok () := by
  obtain ⟨_, hretry, h⟩ := Except.bind_eq_ok.1 h
  obtain ⟨_, hbreaker, h⟩ := Except.bind_eq_ok.1 h
  obtain ⟨_, hbulkhead, htimeout⟩ := Except.bind_eq_ok.1 h
  exact ⟨hretry, hbreaker, hbulkhead, htimeout⟩

/-- The policy is checked as the section is, in the same order. -/
private theorem validate_retry :
    s.policies.retry.validate = .ok () ↔ s.retry.validate = .ok () := by
  simp only [policies, RetryPolicy.validate, RetrySettings.validate]
  grind

private theorem validate_breaker :
    s.policies.breaker.validate = .ok () ↔ s.breaker.validate = .ok () := by
  simp only [policies, BreakerPolicy.validate, BreakerSettings.validate]
  grind

/-- The policy has a limit of its own. -/
private theorem validate_bulkhead (h : s.bulkhead.validate = .ok ()) :
    s.policies.bulkhead.validate =
    if s.bulkhead.maxConcurrent ≤ permitLimit then .ok () else .error .tooManyPermits := by
  simp only [policies, BulkheadPolicy.validate, BulkheadSettings.validate] at h ⊢
  grind

/-- Only a deadline that is set is checked. -/
private theorem validate_timeout (h : s.timeout.validate = .ok ()) {t : TimeoutPolicy}
    (ht : s.policies.timeout = some t) : t.validate = .ok () := by
  obtain ⟨limit, hlimit, rfl⟩ := Option.map_eq_some_iff.1 ht
  simp only [TimeoutSettings.validate, TimeoutPolicy.validate, hlimit] at h ⊢
  grind

/-! ## All sections -/

/-- The policies of settings that are in order can only ask for too many permits. -/
theorem validate_policies (h : s.validate = .ok ()) : s.policies.validate =
    if s.bulkhead.maxConcurrent ≤ permitLimit then .ok () else .error .tooManyPermits := by
  obtain ⟨hretry, hbreaker, hbulkhead, htimeout⟩ := sections_of_validate h
  -- The checks before the one of the bulkhead find nothing.
  unfold Defaults.validate
  rw [validate_retry.2 hretry, validate_breaker.2 hbreaker, validate_bulkhead hbulkhead]
  split
  · cases hlimit : s.policies.timeout with
    | none => rfl
    | some t => exact validate_timeout htimeout hlimit
  · rfl

/-- The policies say what the settings say, and there is a deadline exactly if one is set. -/
structure Describes (s : Settings) (d : Defaults) : Prop where
  maxAttempts : d.retry.maxAttempts = s.retry.maxAttempts
  initialDelay : d.retry.initialDelay = s.retry.initialDelay
  maxDelay : d.retry.maxDelay = s.retry.maxDelay
  multiplier : d.retry.multiplier = s.retry.multiplier
  predicate : d.retry.predicate = none
  failureThreshold : d.breaker.failureThreshold = s.breaker.failureThreshold
  resetTimeout : d.breaker.resetTimeout = s.breaker.resetTimeout
  successThreshold : d.breaker.successThreshold = s.breaker.successThreshold
  maxConcurrent : d.bulkhead.maxConcurrent = s.bulkhead.maxConcurrent
  timeout : ∀ t, d.timeout = some t ↔ s.timeout.limit = some t.limit ∧ s.timeout.mode = t.mode

/-- The policies of settings say what these say. -/
private theorem describes_policies (s : Settings) : s.Describes s.policies where
  maxAttempts := rfl
  initialDelay := rfl
  maxDelay := rfl
  multiplier := rfl
  predicate := rfl
  failureThreshold := rfl
  resetTimeout := rfl
  successThreshold := rfl
  maxConcurrent := rfl
  timeout t := by
    obtain ⟨limit, mode⟩ := t
    cases hlimit : s.timeout.limit with
    | none => simp [policies, hlimit]
    | some l => simp [policies, hlimit]

/-- Settings describe one set of policies. -/
theorem describes_iff {d : Defaults} : s.Describes d ↔ d = s.policies := by
  refine ⟨fun h => ?_, fun h => h ▸ describes_policies s⟩
  obtain ⟨⟨_, _, _, _, _⟩, ⟨_, _, _⟩, ⟨_⟩, timeout⟩ := d
  obtain ⟨rfl, rfl, rfl, rfl, rfl, rfl, rfl, rfl, rfl, htimeout⟩ := h
  -- The deadline is known by when it is there and what it is then.
  have hsame : timeout = s.policies.timeout :=
    Option.ext fun t => (htimeout t).trans ((describes_policies s).timeout t).symm
  rw [hsame]
  rfl

/-- Settings that are not in order are refused before there are policies. -/
private theorem toDefaults_of_invalid {e : SettingsError} (h : s.validate = .error e) :
    s.toDefaults = .error (.settings e) := by
  simp only [toDefaults, h]

/-- Settings that are in order describe policies unless they ask for too many permits. -/
theorem toDefaults_of_validate (h : s.validate = .ok ()) : s.toDefaults =
    if s.bulkhead.maxConcurrent ≤ permitLimit then .ok s.policies
    else .error (.policy .tooManyPermits) := by
  by_cases hle : s.bulkhead.maxConcurrent ≤ permitLimit
  · simp only [toDefaults, h, validate_policies h, if_pos hle]
  · simp only [toDefaults, h, validate_policies h, if_neg hle]

/-- There are policies exactly for settings in order that do not ask for too many permits, and they
say what the settings say. -/
private theorem toDefaults_eq_ok {d : Defaults} : s.toDefaults = .ok d ↔
    s.validate = .ok () ∧ s.bulkhead.maxConcurrent ≤ permitLimit ∧ s.Describes d := by
  rw [describes_iff]
  -- The two checks come one after the other, so the first that fails is the error.
  cases hvalid : s.validate with
  | error e => simp [toDefaults_of_invalid hvalid]
  | ok u =>
    rw [toDefaults_of_validate hvalid]
    split
    · next hle => simp [hle, eq_comm]
    · next hgt => simp [hgt]

private theorem validate_standard : standard.validate = .ok () := by
  decide +kernel

/-- What has passed the check is in order. -/
private theorem validate_of_checked {t : Settings} (h : s.checked = .ok t) :
    t.validate = .ok () := by
  cases hvalid : s.validate with
  | error e => simp [checked_of_invalid hvalid] at h
  | ok u =>
    rw [checked_of_validate hvalid, Except.ok.injEq] at h
    exact h ▸ hvalid

end Settings

/-! ## Settings that are found -/

/-- Settings from an environment are in order. -/
theorem Environment.validate_of_settings {env : Environment} {s : Settings}
    (h : env.settings = .ok s) : s.validate = .ok () := by
  obtain ⟨overrides, -, hchecked⟩ := Except.bind_eq_ok.1 h
  exact Settings.validate_of_checked hchecked

namespace Site

variable {site : Site} {s : Settings}

private theorem validate_of_settingsAt {path : String} (h : site.settingsAt path = .ok s) :
    s.validate = .ok () := by
  unfold settingsAt at h
  -- No file, a directory, or a file; the text of a file is parsed and then checked.
  split at h
  · cases h
  · cases h
  · split at h
    · cases h
    · obtain ⟨parsed, -, hchecked⟩ := Except.bind_eq_ok.1 h
      exact Settings.validate_of_checked hchecked

private theorem validate_of_settingsIn {path : Option String} (h : site.settingsIn path = .ok s) :
    s.validate = .ok () := by
  unfold settingsIn at h
  split at h
  · exact validate_of_settingsAt h
  · cases h

private theorem validate_of_settingsWith {env : Environment} (h : site.settingsWith env = .ok s) :
    s.validate = .ok () := by
  unfold settingsWith at h
  -- The environment, then a file, then the standard.
  split at h
  · exact Environment.validate_of_settings h
  · split at h
    · exact validate_of_settingsAt h
    · cases h
      exact Settings.validate_standard

/-- The settings of a site are in order. -/
theorem validate_of_settings (h : site.settings = .returned (.ok s)) : s.validate = .ok () := by
  unfold settings at h
  cases henv : site.effectiveEnvironment with
  | panicked message => simp [henv] at h
  | returned env =>
    rw [henv, Ending.map_returned, Ending.returned.injEq] at h
    exact validate_of_settingsWith h

/-- The policies of a site are made from its settings. -/
private theorem defaults_of_settings (h : site.settings = .returned (.ok s)) :
    site.defaults = .returned s.toDefaults := by
  rw [defaults, h]
  rfl

end Site

namespace Settings

/-- Settings are turned into policies exactly if they are in order and do not ask for more permits
than a bulkhead can hold. The policies are in order then and say what the settings say. All settings
that are found are in order, so only too many permits can keep them from being policies. -/
theorem accepted_up_to_permits (s : Settings) :
    ((∃ d, s.toDefaults = .ok d) ↔
      s.validate = .ok () ∧ s.bulkhead.maxConcurrent ≤ permitLimit) ∧
    (∀ d, s.toDefaults = .ok d → d.validate = .ok () ∧ s.Describes d) ∧
    (∀ e, s.validate = .error e → s.toDefaults = .error (.settings e)) ∧
    (s.validate = .ok () → permitLimit < s.bulkhead.maxConcurrent →
      s.toDefaults = .error (.policy .tooManyPermits)) ∧
    (∀ env : Environment, env.settings = .ok s → s.validate = .ok ()) ∧
    (∀ (site : Site) (path : Option String), site.settingsIn path = .ok s →
      s.validate = .ok ()) ∧
    ∀ site : Site, site.settings = .returned (.ok s) →
      s.validate = .ok () ∧ site.defaults = .returned s.toDefaults := by
  refine ⟨⟨fun ⟨d, h⟩ => ?_, fun ⟨hvalid, hle⟩ => ?_⟩, fun d h => ?_,
    fun e => toDefaults_of_invalid, fun h hmany => ?_, fun env => Environment.validate_of_settings,
    fun site path => Site.validate_of_settingsIn,
    fun site h => ⟨Site.validate_of_settings h, Site.defaults_of_settings h⟩⟩
  · obtain ⟨hvalid, hle, -⟩ := toDefaults_eq_ok.1 h
    exact ⟨hvalid, hle⟩
  · exact ⟨s.policies, toDefaults_eq_ok.2 ⟨hvalid, hle, describes_policies s⟩⟩
  · obtain ⟨hvalid, hle, hdescribed⟩ := toDefaults_eq_ok.1 h
    refine ⟨?_, hdescribed⟩
    rw [describes_iff.1 hdescribed, validate_policies hvalid, if_pos hle]
  · rw [toDefaults_of_validate h, if_neg (UInt64.not_le.2 hmany)]

/-- The numbers of permits next to the limits of both checks, and settings that are found in the
environment and in a file. -/
theorem accepted_up_to_permits_full :
    let s (permits : UInt64) : Settings := { standard with
      bulkhead := ⟨permits⟩
      timeout := ⟨some (.ofMillis 750), .advisory⟩ }
    let env : Environment := ⟨[("FORTIFY_BULKHEAD_MAX_CONCURRENT_CALLS", .text " 7 ")]⟩
    let seven : Settings := { standard with bulkhead := ⟨7⟩ }
    let found : Settings := { standard with timeout.mode := .advisory }
    let text := "\x7b\"timeout\": \x7b\"mode\": \"advisory\"\x7d\x7d"
    let site := Site.make [] [("fortify.json", text.toUTF8.toList)] [] "/"
    ((s permitLimit).validate = .ok () ∧ (s permitLimit).bulkhead.maxConcurrent ≤ permitLimit ∧
      ∃ d, (s permitLimit).toDefaults = .ok d ∧ d.validate = .ok () ∧
        (s permitLimit).Describes d) ∧
    ((s 0).validate = .error .noPermits ∧ (s 0).toDefaults = .error (.settings .noPermits)) ∧
    ((s (permitLimit + 1)).validate = .ok () ∧ permitLimit < permitLimit + 1 ∧
      (s (permitLimit + 1)).toDefaults = .error (.policy .tooManyPermits)) ∧
    (env.settings = .ok seven ∧ seven.validate = .ok ()) ∧
    (site.settingsIn (some "fortify.json") = .ok found ∧ found.validate = .ok ()) ∧
    site.settings = .returned (.ok found) ∧ site.defaults = .returned found.toDefaults := by
  intro s env seven found text site
  have hvalid : (s permitLimit).validate = .ok () := by decide +kernel
  have hbeyond : (s (permitLimit + 1)).validate = .ok () := by decide +kernel
  have hnone : (s 0).validate = .error .noPermits := by decide +kernel
  have hread : env.settings = .ok seven := by decide +kernel
  have hparsed : site.settingsIn (some "fortify.json") = .ok found := by decide +kernel
  have hfound : site.settings = .returned (.ok found) := by decide +kernel
  obtain ⟨haccepted, hdescribed, -⟩ := accepted_up_to_permits (s permitLimit)
  obtain ⟨-, -, hrefused, -⟩ := accepted_up_to_permits (s 0)
  obtain ⟨-, -, -, hmany, -⟩ := accepted_up_to_permits (s (permitLimit + 1))
  obtain ⟨-, -, -, -, henv, -⟩ := accepted_up_to_permits seven
  obtain ⟨-, -, -, -, -, hpath, hsite⟩ := accepted_up_to_permits found
  obtain ⟨d, hd⟩ := haccepted.2 ⟨hvalid, UInt64.le_refl _⟩
  exact ⟨⟨hvalid, UInt64.le_refl _, d, hd, hdescribed d hd⟩, ⟨hnone, hrefused _ hnone⟩,
    ⟨hbeyond, by decide, hmany hbeyond (by decide)⟩, ⟨hread, henv env hread⟩,
    ⟨hparsed, hpath site _ hparsed⟩, hfound, (hsite site hfound).2⟩

/-- More permits than a bulkhead can hold are in order as a setting, also where they are found in
the environment, and then there are no policies. -/
theorem refused_beyond_permits :
    let s : Settings := { standard with bulkhead := ⟨permitLimit + 1⟩ }
    let site := Site.make
      [("FORTIFY_BULKHEAD_MAX_CONCURRENT_CALLS", "2305843009213693952".toUTF8.toList)] [] [] "/"
    s.validate = .ok () ∧ s.toDefaults = .error (.policy .tooManyPermits) ∧
      site.settings = .returned (.ok s) ∧
      site.defaults = .returned (.error (.policy .tooManyPermits)) := by
  intro s site
  have hvalid : s.validate = .ok () := by decide +kernel
  have hdefaults : s.toDefaults = .error (.policy .tooManyPermits) :=
    (toDefaults_of_validate hvalid).trans (if_neg (by decide : ¬ permitLimit + 1 ≤ permitLimit))
  have hfound : site.settings = .returned (.ok s) := by decide +kernel
  exact ⟨hvalid, hdefaults, hfound, hdefaults ▸ Site.defaults_of_settings hfound⟩

end Settings

end Safeguard
