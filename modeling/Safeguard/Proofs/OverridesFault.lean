import Safeguard.Settings.Overrides

/-!
# The first variable at fault

The variables for settings are read in a fixed order, each as a value of a kind, and the first that
is there but cannot be read decides what is wrong. `Environment.fault?` says of one variable what is
wrong with it. So an environment has overrides exactly if no variable is at fault, and otherwise the
fault is the one of the first variable in order.

What overrides an environment has depends on the variables for settings alone.

## Key results

- `Environment.error?_overrides`: the fault of an environment is the first one
- `Environment.isInfix_of_fault?`: what is wrong names the variable
- `Environment.settings_congr`: other variables play no part
-/

namespace Safeguard

/-! ## What goes wrong first -/

section

variable {ε α β : Type}

/-- What went wrong, if anything did. -/
def error? : Except ε α → Option ε
  | .error e => some e
  | .ok _ => none

/-- The error of a result is what it fails with. -/
private theorem error?_eq_some_iff {x : Except ε α} {e : ε} : error? x = some e ↔ x = .error e := by
  cases x <;> simp [error?]

private theorem error?_map (x : Except ε α) (f : α → β) : error? (x.map f) = error? x := by
  cases x <;> rfl

/-- Of two steps the first that goes wrong decides, if what can go wrong with the second does not
depend on the first. -/
private theorem error?_bind {x : Except ε α} {f : α → Except ε β} {later : Option ε}
    (h : ∀ a, error? (f a) = later) : error? (x >>= f) = (error? x).or later := by
  cases x with
  | error e => rfl
  | ok a => exact h a

end

/-! ## Kinds of values -/

/-- The kinds of values that variables for settings hold. -/
inductive ValueKind where
  /-- A whole number below `2^32`. -/
  | word32
  /-- A whole number below `2^64`. -/
  | word64
  | number
  | mode
deriving DecidableEq

/-- Why a text does not denote a value of a kind, if it does not. -/
def ValueKind.refusal? (cs : List Char) : ValueKind → Option String
  | word32 => (error? (Digits.read (2 ^ 32 - 1) cs)).map WordError.message
  | word64 => (error? (Digits.read (2 ^ 64 - 1) cs)).map WordError.message
  | number => (error? (Binary64.read cs)).map Binary64.ReadError.message
  | mode => (error? (TimeoutMode.read cs)).map TimeoutMode.ReadError.message

/-- A variable for a setting, and the kind of its value. -/
structure SettingVariable where
  name : String
  kind : ValueKind
deriving DecidableEq

namespace Environment

/-- The variables for settings, in the order in which they are read. -/
def settingVariables : List SettingVariable :=
  [⟨"FORTIFY_RETRY_MAX_ATTEMPTS", .word32⟩, ⟨"FORTIFY_RETRY_INITIAL_DELAY_MS", .word64⟩,
    ⟨"FORTIFY_RETRY_MAX_DELAY_MS", .word64⟩, ⟨"FORTIFY_RETRY_BACKOFF_MULTIPLIER", .number⟩,
    ⟨"FORTIFY_CB_FAILURE_THRESHOLD", .word32⟩, ⟨"FORTIFY_CB_RESET_TIMEOUT_MS", .word64⟩,
    ⟨"FORTIFY_CB_SUCCESS_THRESHOLD", .word32⟩, ⟨"FORTIFY_BULKHEAD_MAX_CONCURRENT_CALLS", .word64⟩,
    ⟨"FORTIFY_TIMEOUT_MS", .word64⟩, ⟨"FORTIFY_TIMEOUT_MODE", .mode⟩]

theorem settingNames_eq : settingNames = settingVariables.map (·.name) := rfl

variable (env : Environment)

/-- What is wrong with a variable for a setting: it is there, and is no text or a text that does not
denote a value of its kind, with the blanks around it left out. -/
def fault? (v : SettingVariable) : Option SetupError :=
  match env.get? v.name with
  | none => none
  | some .bytes => some (.rawVariable v.name)
  | some (.text raw) =>
    (v.kind.refusal? (Text.trim raw.toList)).map (.badVariable v.name raw)

/-- A variable is at fault if its value is not read. -/
private theorem error?_read? {α ε : Type} (v : SettingVariable) {read : List Char → Except ε α}
    {message : ε → String} (h : ∀ cs, v.kind.refusal? cs = (error? (read cs)).map message) :
    error? (env.read? v.name read message) = env.fault? v := by
  unfold read? fault?
  cases env.get? v.name with
  | none => rfl
  | some value =>
    cases value with
    | bytes => rfl
    | text raw =>
      simp only [h]
      cases read (Text.trim raw.toList) <;> rfl

/-- A variable is read, and those behind it. -/
private theorem error?_read_bind {α β : Type} {v : SettingVariable} {later : List SettingVariable}
    {x : Except SetupError α} {f : α → Except SetupError β} (hx : error? x = env.fault? v)
    (hf : ∀ a, error? (f a) = later.findSome? env.fault?) :
    error? (x >>= f) = (v :: later).findSome? env.fault? := by
  rw [error?_bind hf, hx, List.findSome?_cons]
  cases env.fault? v <;> rfl

private theorem error?_word32? (name : String) :
    error? (env.word32? name) = env.fault? ⟨name, .word32⟩ := by
  rw [word32?, error?_map]
  exact env.error?_read? ⟨name, .word32⟩ fun _ => rfl

private theorem error?_word64? (name : String) :
    error? (env.word64? name) = env.fault? ⟨name, .word64⟩ := by
  rw [word64?, error?_map]
  exact env.error?_read? ⟨name, .word64⟩ fun _ => rfl

/-- What is wrong with an environment is what is wrong with the first variable at fault. -/
theorem error?_overrides : error? env.overrides = settingVariables.findSome? env.fault? := by
  unfold overrides settingVariables
  -- One step for each variable, in the order of `settingVariables`.
  refine env.error?_read_bind (env.error?_word32? _) fun _ => ?_
  refine env.error?_read_bind (env.error?_word64? _) fun _ => ?_
  refine env.error?_read_bind (env.error?_word64? _) fun _ => ?_
  refine env.error?_read_bind (env.error?_read? ⟨_, .number⟩ fun _ => rfl) fun _ => ?_
  refine env.error?_read_bind (env.error?_word32? _) fun _ => ?_
  refine env.error?_read_bind (env.error?_word64? _) fun _ => ?_
  refine env.error?_read_bind (env.error?_word32? _) fun _ => ?_
  refine env.error?_read_bind (env.error?_word64? _) fun _ => ?_
  refine env.error?_read_bind (env.error?_word64? _) fun _ => ?_
  exact env.error?_read_bind (env.error?_read? ⟨_, .mode⟩ fun _ => rfl) fun _ => rfl

variable {env} {v : SettingVariable}

/-- The first variable at fault decides what is wrong with the settings. -/
theorem settings_of_fault (h : settingVariables.find? (fun v => (env.fault? v).isSome) = some v) :
    ∃ e, env.fault? v = some e ∧ env.settings = .error e := by
  have hfault : (env.fault? v).isSome := by simpa using List.find?_some h
  obtain ⟨e, he⟩ := Option.isSome_iff_exists.1 hfault
  have hfirst : settingVariables.findSome? env.fault? = some e := by
    rw [List.find?_eq_some_iff_append] at h
    obtain ⟨-, before, after, hsplit, hbefore⟩ := h
    -- Nothing is wrong with the variables in front of it.
    have hnone : before.findSome? env.fault? = none :=
      List.findSome?_eq_none_iff.2 fun u hu => by simpa using hbefore u hu
    rw [hsplit, List.findSome?_append, hnone, Option.none_or, List.findSome?_cons, he]
  have hoverrides : env.overrides = .error e := error?_eq_some_iff.1 (env.error?_overrides ▸ hfirst)
  refine ⟨e, he, ?_⟩
  rw [settings, hoverrides]
  rfl

/-- What is wrong with a variable is said under its name. -/
theorem isInfix_of_fault? {e : SetupError} (h : env.fault? v = some e) :
    v.name.toList <:+: e.complaint.text.toList := by
  unfold fault? at h
  split at h
  · cases h
  · cases h
    refine ⟨"Configuration error: Environment variable ".toList, " is not valid UTF-8".toList, ?_⟩
    simp [SetupError.complaint, Complaint.text]
  · next raw _ =>
    obtain ⟨reason, -, rfl⟩ := Option.map_eq_some_iff.1 h
    refine ⟨"Configuration error: Invalid value for ".toList,
      (" (" ++ Text.quoted raw ++ "): " ++ reason).toList, ?_⟩
    simp [SetupError.complaint, Complaint.text]

/-! ## Other variables -/

variable {env' : Environment}

/-- The environment has settings if one of the variables is set. -/
theorem hasSettings_iff :
    env.hasSettings = true ↔ ∃ v ∈ settingVariables, (env.get? v.name).isSome := by
  rw [hasSettings, settingNames_eq, List.any_map, List.any_eq_true]
  rfl

/-- Variables that are not for settings play no part in whether there are any. -/
theorem hasSettings_congr (h : ∀ v ∈ settingVariables, env'.get? v.name = env.get? v.name) :
    env'.hasSettings = env.hasSettings := by
  rw [Bool.eq_iff_iff, hasSettings_iff, hasSettings_iff]
  exact exists_congr fun v => and_congr_right fun hv => by rw [h v hv]

/-- They play no part in the settings. -/
theorem settings_congr (h : ∀ v ∈ settingVariables, env'.get? v.name = env.get? v.name) :
    env'.settings = env.settings := by
  simp only [settingVariables, List.forall_mem_cons] at h
  simp only [settings, overrides, word32?, word64?, read?, h]

end Environment

end Safeguard
