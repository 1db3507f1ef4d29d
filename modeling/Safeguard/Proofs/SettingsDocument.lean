import Safeguard.Settings.Codec
import Safeguard.Settings.Overrides
import Mathlib.Data.List.Nodup

/-!
# Settings in a document

A document may say some of the settings and leave the others alone. `Overrides.WrittenIn` says that
it holds new values for certain settings and nothing else, in any order, whether or not a section
without new values is there. Such a document is read as the standard settings with the new values.

The document of settings is of this form: it says everything but a deadline that is not set. So
settings come back from their document with every span cut down to whole milliseconds, of which at
most `2^64 - 1` are kept.

## Key results

- `Field.readAll_table`, `Field.readEntry_eq`: a table is read key by key
- `Overrides.ofDocument?_eq`: settings from a document that says some of them
- `Settings.writtenIn_toDocument`: what the document of settings says
- `Settings.document_round_trip`: settings that went through a document
-/

namespace Safeguard

/-! ## Reading a table by its keys -/

/-- If no key occurs twice, the entries under a key are what is found under it. -/
private theorem filter_eq_lookup {α β : Type} [DecidableEq α] [BEq α] [LawfulBEq α] (key : α)
    {entries : List (α × β)} (h : (entries.map Prod.fst).Nodup) :
    entries.filter (·.1 = key) = (entries.lookup key).toList.map ((key, ·)) := by
  -- By induction on the entries: the key is found at once or behind the first entry.
  induction entries with
  | nil => rfl
  | cons e entries ih =>
    obtain ⟨k, b⟩ := e
    obtain ⟨hnew, hrest⟩ := List.nodup_cons.1 h
    by_cases hkey : k = key
    · subst hkey
      -- The key does not come again.
      have hother : entries.filter (·.1 = k) = [] := by
        apply List.filter_eq_nil_iff.2
        intro e he
        have hne : e.1 ≠ k := fun hkey => hnew (List.mem_map.2 ⟨e, he, hkey⟩)
        simpa using hne
      simp [hother]
    · have hne : (key == k) = false := beq_eq_false_iff_ne.2 (Ne.symm hkey)
      simp [List.lookup_cons, hkey, hne, ih hrest]

namespace Document

/-- The entries of a table whose keys are among given names, and none of which occurs twice. -/
structure Keyed (names : List String) (entries : List (Option String × Document)) : Prop where
  nodup : (entries.map Prod.fst).Nodup
  known : ∀ e ∈ entries, ∃ name ∈ names, e.1 = some name

/-- A document that holds a word. -/
def IsWord32 (v : Document) (n : UInt32) : Prop := v = .integer n.toNat

/-- A document that holds a word. -/
def IsWord64 (v : Document) (n : UInt64) : Prop := v = .integer n.toNat

/-- A document that holds a number, as it is or as a whole number. -/
def IsDouble (v : Document) (x : Binary64) : Prop :=
  v = .double x ∨ ∃ n : Int, -2 ^ 63 ≤ n ∧ n < 2 ^ 64 ∧ v = .integer n ∧ .ofInt n = x

/-- A document that holds a mode. -/
def IsMode (v : Document) (mode : TimeoutMode) : Prop := v = .text mode.keyword

private theorem toWord32?_of_isWord32 {v : Document} {n : UInt32} (h : v.IsWord32 n) :
    v.toWord32? = some n := by
  have hlt : n.toNat < 2 ^ 32 := n.toNat_lt
  subst h
  simp [toWord32?, toWord?]
  omega

private theorem toWord64?_of_isWord64 {v : Document} {n : UInt64} (h : v.IsWord64 n) :
    v.toWord64? = some n := by
  have hlt : n.toNat < 2 ^ 64 := n.toNat_lt
  subst h
  simp [toWord64?, toWord?]
  omega

/-- A span is read from a word of milliseconds. -/
private theorem toMillis?_of_isWord64 {v : Document} {n : UInt64} (h : v.IsWord64 n) :
    v.toMillis? = some (.ofMillis n) := by
  rw [toMillis?, toWord64?_of_isWord64 h]
  rfl

private theorem toDouble?_of_isDouble {v : Document} {x : Binary64} (h : v.IsDouble x) :
    v.toDouble? = some x := by
  rcases h with rfl | ⟨n, hlow, hhigh, rfl, rfl⟩
  · rfl
  · exact if_pos ⟨hlow, hhigh⟩

private theorem toKeyword?_of_isMode {d : Dialect} {v : Document} {mode : TimeoutMode}
    (h : v.IsMode mode) : v.toKeyword? d TimeoutMode.ofKeyword? = some mode := by
  subst h
  cases mode <;> rfl

end Document

namespace Field

variable {σ τ α β : Type} {d : Dialect} {names : List String}
  {entries : List (Option String × Document)} {s : σ}

/-- If all keys are known names, the fields of a table are read one after another. -/
theorem readAll_table (h : Document.Keyed names entries) (fields : List (Field σ)) :
    readAll fields d (.table entries) s = fields.foldlM (readEntry d entries) s := by
  -- A key that is no text is an error, and all of these are names.
  apply if_neg
  simp only [List.any_eq_true, not_exists, not_and]
  intro e he
  obtain ⟨name, -, hname⟩ := h.known e he
  simp [hname]

/-- If no key occurs twice, a field is read from what is found under its name. -/
theorem readEntry_eq (h : Document.Keyed names entries) (f : Field σ) :
    readEntry d entries s f = (entries.lookup (some f.name)).elim (some s) (f.read d · s) := by
  unfold readEntry
  rw [filter_eq_lookup _ h.nodup]
  cases entries.lookup (some f.name) <;> rfl

/-- An empty table changes nothing. -/
private theorem readAll_nil (fields : List (Field σ)) :
    readAll fields d (.table []) s = some s := by
  show fields.foldlM (readEntry d []) s = some s
  induction fields with
  | nil => rfl
  | cons f fields ih => exact ih

/-- One field is read, and the others go on from there. -/
private theorem foldlM_cons_of {f : Field σ} {fields : List (Field σ)} {s' t : σ}
    (h : readEntry d entries s f = some s') (ht : fields.foldlM (readEntry d entries) s' = some t) :
    (f :: fields).foldlM (readEntry d entries) s = some t := by
  rw [List.foldlM_cons, h]
  exact ht

/-- What is under the name of a field makes its change, if there is something. -/
private theorem readEntry_of_rel (hkeyed : Document.Keyed names entries) {f : Field σ}
    (change : β → σ → σ) {holds : Document → β → Prop} {b : Option β}
    (h : Option.Rel holds (entries.lookup (some f.name)) b)
    (hread : ∀ v b, holds v b → f.read d v s = some (change b s)) :
    readEntry d entries s f = some (b.elim s (change · s)) := by
  rw [readEntry_eq hkeyed]
  generalize entries.lookup (some f.name) = found at h
  cases h with
  | none => rfl
  | some h => exact hread _ _ h

/-- The value under the name of a field replaces the one that is there. -/
private theorem readEntry_ofValue (hkeyed : Document.Keyed names entries) {name : String}
    {read : Document → Option α} {write : α → Document} {get : σ → α} {set : α → σ → σ}
    {value : β → α} {holds : Document → β → Prop} {b : Option β}
    (h : Option.Rel holds (entries.lookup (some name)) b)
    (hread : ∀ v b, holds v b → read v = some (value b)) (hset : set (get s) s = s) :
    readEntry d entries s (.ofValue name read write get set) =
      some (set ((b.map value).getD (get s)) s) := by
  have hfield : readEntry d entries s (.ofValue name read write get set) =
      some (b.elim s fun b => set (value b) s) := by
    apply readEntry_of_rel hkeyed (fun b s => set (value b) s) h
    intro v b hv
    show (read v).map _ = _
    rw [hread v b hv]
    rfl
  rw [hfield]
  -- Without a value the old one is set again.
  cases b with
  | none => exact congrArg some hset.symm
  | some b => rfl

/-- The entries of the document of a section. -/
def written (fields : List (Field σ)) (s : σ) : List (Option String × Document) :=
  fields.filterMap fun f => (f.write s).map fun v => (some f.name, v)

/-- A section has at most one entry for each of its fields. -/
private theorem keyed_written (fields : List (Field σ)) (s : σ)
    (h : (fields.map Field.name).Nodup) :
    Document.Keyed (fields.map Field.name) (written fields s) where
  nodup := by
    -- A field that is not written leaves its name out, so the keys are some of the names in order.
    have hsub : ((written fields s).map Prod.fst).Sublist ((fields.map Field.name).map some) := by
      unfold written
      induction fields with
      | nil => exact .slnil
      | cons f fields ih =>
        specialize ih (List.nodup_cons.1 h).2
        cases hwrite : f.write s with
        | none => simpa [hwrite] using ih.cons (some f.name)
        | some v => simpa [hwrite] using ih
    exact (h.map fun _ _ => Option.some.inj).sublist hsub
  known := by
    intro e he
    obtain ⟨f, hf, hwrite⟩ := List.mem_filterMap.1 he
    obtain ⟨v, -, rfl⟩ := Option.map_eq_some_iff.1 hwrite
    exact ⟨f.name, List.mem_map_of_mem hf, rfl⟩

/-- What is under a name is the table of a section, or the section is missing. -/
def SectionIn (entries : List (Option String × Document)) (name : String)
    (holds : List (Option String × Document) → Prop) : Prop :=
  match entries.lookup (some name) with
  | none => holds []
  | some v => ∃ inner, v = .table inner ∧ holds inner

/-- A section whose table is found. -/
theorem sectionIn_of_lookup {name : String} {inner : List (Option String × Document)}
    {holds : List (Option String × Document) → Prop}
    (h : entries.lookup (some name) = some (.table inner)) (hinner : holds inner) :
    SectionIn entries name holds := by
  unfold SectionIn
  rw [h]
  exact ⟨inner, rfl, hinner⟩

/-- A section that is missing is read as one that is empty. -/
private theorem readEntry_ofSection (hkeyed : Document.Keyed names entries) {name : String}
    {fields : List (Field τ)} {standard t : τ} {get : σ → τ} {set : τ → σ → σ}
    {holds : List (Option String × Document) → Prop} (h : SectionIn entries name holds)
    (hread : ∀ inner, holds inner → readAll fields d (.table inner) standard = some t)
    (hset : set standard s = s) :
    readEntry d entries s (.ofSection name fields standard get set) = some (set t s) := by
  rw [readEntry_eq hkeyed]
  unfold SectionIn at h
  -- The section is looked up under its name, in the hypothesis as in the goal.
  show (entries.lookup (some name)).elim _ _ = _
  cases hfound : entries.lookup (some name) with
  | none =>
    rw [hfound] at h
    -- The section without entries is the standard one.
    have ht : standard = t := Option.some.inj ((readAll_nil fields).symm.trans (hread [] h))
    rw [← ht, hset]
    rfl
  | some v =>
    rw [hfound] at h
    obtain ⟨inner, rfl, h⟩ := h
    show (readAll fields d (.table inner) standard).map _ = _
    rw [hread inner h]
    rfl

end Field

/-! ## Documents that say some of the settings -/

namespace Overrides

open Document Safeguard.Field

variable (o : Overrides)

/-- The table of the retry section holds the new values for it and nothing else. -/
structure InRetry (entries : List (Option String × Document)) : Prop where
  keyed : Keyed ["max_attempts", "initial_delay_ms", "max_delay_ms", "backoff_multiplier"] entries
  maxAttempts : Option.Rel IsWord32 (entries.lookup (some "max_attempts")) o.maxAttempts
  initialDelay : Option.Rel IsWord64 (entries.lookup (some "initial_delay_ms")) o.initialDelay
  maxDelay : Option.Rel IsWord64 (entries.lookup (some "max_delay_ms")) o.maxDelay
  multiplier : Option.Rel IsDouble (entries.lookup (some "backoff_multiplier")) o.multiplier

/-- The table of the circuit breaker section holds the new values for it and nothing else. -/
structure InBreaker (entries : List (Option String × Document)) : Prop where
  keyed : Keyed ["failure_threshold", "reset_timeout_ms", "success_threshold"] entries
  failureThreshold :
    Option.Rel IsWord32 (entries.lookup (some "failure_threshold")) o.failureThreshold
  resetTimeout : Option.Rel IsWord64 (entries.lookup (some "reset_timeout_ms")) o.resetTimeout
  successThreshold :
    Option.Rel IsWord32 (entries.lookup (some "success_threshold")) o.successThreshold

/-- The table of the bulkhead section holds the new value for it and nothing else. -/
structure InBulkhead (entries : List (Option String × Document)) : Prop where
  keyed : Keyed ["max_concurrent_calls"] entries
  maxConcurrent : Option.Rel IsWord64 (entries.lookup (some "max_concurrent_calls")) o.maxConcurrent

/-- The table of the timeout section holds the new values for it and nothing else. -/
structure InTimeout (entries : List (Option String × Document)) : Prop where
  keyed : Keyed ["duration_ms", "mode"] entries
  limit : Option.Rel IsWord64 (entries.lookup (some "duration_ms")) o.limit
  mode : Option.Rel IsMode (entries.lookup (some "mode")) o.mode

/-- The table of all sections holds the new values and nothing else. -/
structure InSections (entries : List (Option String × Document)) : Prop where
  keyed : Keyed ["retry", "circuit_breaker", "bulkhead", "timeout"] entries
  retry : SectionIn entries "retry" o.InRetry
  breaker : SectionIn entries "circuit_breaker" o.InBreaker
  bulkhead : SectionIn entries "bulkhead" o.InBulkhead
  timeout : SectionIn entries "timeout" o.InTimeout

/-- The document holds the new values and nothing else. -/
def WrittenIn (v : Document) : Prop := ∃ entries, v = .table entries ∧ o.InSections entries

variable {o} {d : Dialect} {entries : List (Option String × Document)}

private theorem InRetry.readAll_eq (h : o.InRetry entries) :
    readAll RetrySettings.fields d (.table entries) .standard =
      some (o.applyTo .standard).retry := by
  rw [readAll_table h.keyed]
  apply foldlM_cons_of (readEntry_ofValue h.keyed h.maxAttempts
    (fun _ _ => toWord32?_of_isWord32) rfl)
  apply foldlM_cons_of (readEntry_ofValue h.keyed h.initialDelay
    (fun _ _ => toMillis?_of_isWord64) rfl)
  apply foldlM_cons_of (readEntry_ofValue h.keyed h.maxDelay
    (fun _ _ => toMillis?_of_isWord64) rfl)
  apply foldlM_cons_of (readEntry_ofValue h.keyed h.multiplier
    (fun _ _ => toDouble?_of_isDouble) rfl)
  simp [applyTo, Settings.standard]

private theorem InBreaker.readAll_eq (h : o.InBreaker entries) :
    readAll BreakerSettings.fields d (.table entries) .standard =
      some (o.applyTo .standard).breaker := by
  rw [readAll_table h.keyed]
  apply foldlM_cons_of (readEntry_ofValue h.keyed h.failureThreshold
    (fun _ _ => toWord32?_of_isWord32) rfl)
  apply foldlM_cons_of (readEntry_ofValue h.keyed h.resetTimeout
    (fun _ _ => toMillis?_of_isWord64) rfl)
  apply foldlM_cons_of (readEntry_ofValue h.keyed h.successThreshold
    (fun _ _ => toWord32?_of_isWord32) rfl)
  simp [applyTo, Settings.standard]

private theorem InBulkhead.readAll_eq (h : o.InBulkhead entries) :
    readAll BulkheadSettings.fields d (.table entries) .standard =
      some (o.applyTo .standard).bulkhead := by
  rw [readAll_table h.keyed]
  apply foldlM_cons_of (readEntry_ofValue h.keyed h.maxConcurrent
    (fun _ _ => toWord64?_of_isWord64) rfl)
  simp [applyTo, Settings.standard]

/-- A deadline that is set is never written as `null`. -/
private theorem InTimeout.readAll_eq (h : o.InTimeout entries) :
    readAll TimeoutSettings.fields d (.table entries) .standard =
      some (o.applyTo .standard).timeout := by
  rw [readAll_table h.keyed]
  -- Both fields of this section are read in a way of their own.
  apply foldlM_cons_of (readEntry_of_rel h.keyed
    (fun millis s => { s with limit := some (.ofMillis millis) }) h.limit ?_)
  · apply foldlM_cons_of (readEntry_of_rel h.keyed (fun mode s => { s with mode }) h.mode ?_)
    · simp only [List.foldlM_nil, applyTo, Settings.standard, TimeoutSettings.standard]
      cases o.limit <;> cases o.mode <;> rfl
    · intro v mode hv
      simp [toKeyword?_of_isMode hv]
  · intro v millis hv
    have hmillis := toMillis?_of_isWord64 hv
    subst hv
    simp [toOptional?, hmillis]

/-- A document that holds the new values is read as the standard settings with these. -/
theorem ofDocument?_eq {v : Document} (h : o.WrittenIn v) :
    Settings.ofDocument? d v = some (o.applyTo .standard) := by
  obtain ⟨entries, rfl, h⟩ := h
  unfold Settings.ofDocument?
  -- The sections do not touch each other, so each is read on its own.
  rw [readAll_table h.keyed]
  apply foldlM_cons_of (readEntry_ofSection h.keyed h.retry (fun _ => InRetry.readAll_eq) rfl)
  apply foldlM_cons_of (readEntry_ofSection h.keyed h.breaker (fun _ => InBreaker.readAll_eq) rfl)
  apply foldlM_cons_of (readEntry_ofSection h.keyed h.bulkhead (fun _ => InBulkhead.readAll_eq) rfl)
  apply foldlM_cons_of (readEntry_ofSection h.keyed h.timeout (fun _ => InTimeout.readAll_eq) rfl)
  rfl

end Overrides

/-! ## The document of settings -/

namespace Duration

/-- The whole milliseconds of a span, of which at most `2^64 - 1` are kept. -/
def cutToMillis (d : Duration) : Duration :=
  ⟨min (d.nanos / 10 ^ 6) (2 ^ 64 - 1) * 10 ^ 6, by omega⟩

theorem nanos_cutToMillis (d : Duration) :
    d.cutToMillis.nanos = min (d.nanos / 10 ^ 6) (2 ^ 64 - 1) * 10 ^ 6 := rfl

/-- The milliseconds that are written. -/
private theorem toNat_toMillis (d : Duration) :
    d.toMillis.toNat = min (d.nanos / 10 ^ 6) (2 ^ 64 - 1) := by
  rw [toMillis, UInt64.toNat_ofNat']
  omega

/-- A span that was written in milliseconds comes back cut down to them. -/
private theorem ofMillis_toMillis (d : Duration) : .ofMillis d.toMillis = d.cutToMillis := by
  apply Duration.ext
  rw [nanos_cutToMillis, ← toNat_toMillis]
  rfl

/-- A span that was cut down is written in the same way. -/
private theorem toMillis_cutToMillis (d : Duration) : d.cutToMillis.toMillis = d.toMillis := by
  apply UInt64.toNat_inj.1
  simp only [toNat_toMillis, nanos_cutToMillis]
  omega

/-- A span stays as it is exactly if it is one of whole milliseconds that fit into a word. -/
private theorem cutToMillis_eq_self_iff (d : Duration) :
    d.cutToMillis = d ↔ 10 ^ 6 ∣ d.nanos ∧ d.nanos ≤ (2 ^ 64 - 1) * 10 ^ 6 := by
  rw [Duration.ext_iff, nanos_cutToMillis]
  omega

end Duration

namespace Settings

variable (s : Settings)

/-- The spans of settings. -/
def spans : List Duration :=
  [s.retry.initialDelay, s.retry.maxDelay, s.breaker.resetTimeout] ++ s.timeout.limit.toList

/-- The settings with every span cut down to whole milliseconds. -/
def cutToMillis : Settings where
  retry := { s.retry with
    initialDelay := s.retry.initialDelay.cutToMillis
    maxDelay := s.retry.maxDelay.cutToMillis }
  breaker := { s.breaker with resetTimeout := s.breaker.resetTimeout.cutToMillis }
  bulkhead := s.bulkhead
  timeout := { s.timeout with limit := s.timeout.limit.map Duration.cutToMillis }

/-- What the document of settings says: every setting, and the deadline if it is set. -/
def written : Overrides where
  maxAttempts := some s.retry.maxAttempts
  initialDelay := some s.retry.initialDelay.toMillis
  maxDelay := some s.retry.maxDelay.toMillis
  multiplier := some s.retry.multiplier
  failureThreshold := some s.breaker.failureThreshold
  resetTimeout := some s.breaker.resetTimeout.toMillis
  successThreshold := some s.breaker.successThreshold
  maxConcurrent := some s.bulkhead.maxConcurrent
  limit := s.timeout.limit.map Duration.toMillis
  mode := some s.timeout.mode

/-- What the document says, put over the standard settings, is the settings cut down. -/
private theorem written_applyTo_standard : s.written.applyTo .standard = s.cutToMillis := by
  simp only [Overrides.applyTo, written, cutToMillis, standard, TimeoutSettings.standard]
  cases s.timeout.limit <;> simp [Duration.ofMillis_toMillis]

open Safeguard.Field

/-- The table of the timeout section has one entry less if no deadline is set. -/
private theorem written_inTimeout :
    s.written.InTimeout (Field.written TimeoutSettings.fields s.timeout) := by
  have hkeyed := keyed_written TimeoutSettings.fields s.timeout (by decide)
  obtain ⟨_, _, _, ⟨limit, mode⟩⟩ := s
  -- The entry of the deadline is there exactly if it is set.
  cases limit with
  | none => exact ⟨hkeyed, .none, .some rfl⟩
  | some limit => exact ⟨hkeyed, .some rfl, .some rfl⟩

/-- The document of settings says every setting, and the deadline if it is set. -/
theorem writtenIn_toDocument : s.written.WrittenIn s.toDocument := by
  refine ⟨Field.written fields s, rfl, keyed_written fields s (by decide), ?_, ?_, ?_, ?_⟩
  · apply sectionIn_of_lookup rfl
    exact ⟨keyed_written RetrySettings.fields s.retry (by decide), .some rfl, .some rfl,
      .some rfl, .some (.inl rfl)⟩
  · apply sectionIn_of_lookup rfl
    exact ⟨keyed_written BreakerSettings.fields s.breaker (by decide), .some rfl, .some rfl,
      .some rfl⟩
  · apply sectionIn_of_lookup rfl
    exact ⟨keyed_written BulkheadSettings.fields s.bulkhead (by decide), .some rfl⟩
  · apply sectionIn_of_lookup rfl
    exact s.written_inTimeout

/-- Settings that were cut down have the same document. -/
private theorem toDocument_cutToMillis : s.cutToMillis.toDocument = s.toDocument := by
  obtain ⟨_, _, _, ⟨limit, mode⟩⟩ := s
  cases limit <;> simp [toDocument, writeAll, fields, ofSection, ofValue, RetrySettings.fields,
    BreakerSettings.fields, TimeoutSettings.fields, cutToMillis, Document.ofMillis,
    Duration.toMillis_cutToMillis]

/-- Settings stay as they are exactly if each of their spans does. -/
private theorem cutToMillis_eq_self_iff :
    s.cutToMillis = s ↔ ∀ span ∈ s.spans, span.cutToMillis = span := by
  obtain ⟨⟨_, initialDelay, maxDelay, _⟩, ⟨_, resetTimeout, _⟩, _, ⟨limit, _⟩⟩ := s
  cases limit <;> simp [cutToMillis, spans, and_assoc]

/-- Settings come back from their document with every span cut down to whole milliseconds, of which
at most `2^64 - 1` are kept, and with everything else as it was. So they come back as they were
exactly if every span is one of whole milliseconds that fit into a word. What comes back has the
same document, and a deadline only if there was one. -/
theorem document_round_trip (d : Dialect) :
    ofDocument? d s.toDocument = some s.cutToMillis ∧
    (ofDocument? d s.toDocument = some s ↔
      ∀ span ∈ s.spans, 10 ^ 6 ∣ span.nanos ∧ span.nanos ≤ (2 ^ 64 - 1) * 10 ^ 6) ∧
    (ofDocument? d s.toDocument).map toDocument = some s.toDocument ∧
    (ofDocument? d s.toDocument).map (·.timeout.limit.isSome) = some s.timeout.limit.isSome := by
  -- The document of settings is one that says new values for them, so it is read as such.
  have hread : ofDocument? d s.toDocument = some s.cutToMillis := by
    rw [Overrides.ofDocument?_eq s.writtenIn_toDocument, written_applyTo_standard]
  rw [hread]
  refine ⟨rfl, ?_, ?_, ?_⟩
  · simp only [Option.some.injEq, cutToMillis_eq_self_iff, Duration.cutToMillis_eq_self_iff]
  · exact congrArg some s.toDocument_cutToMillis
  · simp [cutToMillis]

/-- Spans that are lost in part: one below a millisecond, and the longest there is; and the longest
that comes back. -/
theorem document_round_trip_longest :
    let s : Settings := { standard with
      retry.initialDelay := ⟨1500000, by decide⟩
      retry.maxDelay := ⟨2 ^ 64 * 10 ^ 9 - 1, by decide⟩
      breaker.resetTimeout := .ofMillis 18446744073709551615 }
    let back : Settings := { s with
      retry.initialDelay := .ofMillis 1
      retry.maxDelay := .ofMillis 18446744073709551615 }
    ofDocument? ⟨true, true⟩ s.toDocument = some back ∧ back ≠ s ∧
    (∀ span ∈ back.spans, 10 ^ 6 ∣ span.nanos ∧ span.nanos ≤ (2 ^ 64 - 1) * 10 ^ 6) ∧
    ofDocument? ⟨true, true⟩ back.toDocument = some back := by
  intro s back
  have hwhole : ∀ span ∈ back.spans, 10 ^ 6 ∣ span.nanos ∧ span.nanos ≤ (2 ^ 64 - 1) * 10 ^ 6 := by
    decide +kernel
  have hcut : some s.cutToMillis = some back := by decide +kernel
  obtain ⟨hread, -⟩ := document_round_trip s ⟨true, true⟩
  obtain ⟨-, hsame, -⟩ := document_round_trip back ⟨true, true⟩
  exact ⟨hread.trans hcut, by decide +kernel, hwhole, hsame.2 hwhole⟩

end Settings

end Safeguard
