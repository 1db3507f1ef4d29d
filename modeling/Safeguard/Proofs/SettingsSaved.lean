import Safeguard.Proofs.SettingsDocument
import Safeguard.Proofs.SettingsPolicies

/-!
# Settings that were saved

Settings that are in order are written to a document, and what is read back is checked again. Every
span comes back cut down to whole milliseconds, so the checks have to be made anew. The order of the
delays is kept, and nothing else in the first three sections is touched. But the check of the
deadline asks for some time, and a deadline shorter than a millisecond comes back as none.

## Key results

- `Duration.cutToMillis_le_cutToMillis`: cutting down keeps the order of spans
- `Settings.validate_cutToMillis`: what the check says of settings that were cut down
- `Settings.saved_in_order`: what is saved comes back in order, unless its deadline is too short
- `Settings.saved_out_of_order`: settings in order that come back out of order
-/

namespace Safeguard

namespace Duration

/-- Cutting down keeps the order of spans. -/
theorem cutToMillis_le_cutToMillis {a b : Duration} (h : a ≤ b) :
    a.cutToMillis ≤ b.cutToMillis := by
  rw [le_def] at h ⊢
  rw [nanos_cutToMillis, nanos_cutToMillis]
  omega

/-- Nothing is left of a span exactly if it is shorter than a millisecond. -/
private theorem cutToMillis_eq_zero_iff (d : Duration) :
    d.cutToMillis = .zero ↔ d.nanos < 10 ^ 6 := by
  rw [Duration.ext_iff, nanos_cutToMillis]
  show _ = 0 ↔ _
  omega

end Duration

/-! ## Section by section -/

/-- What the check of the retry section asks for. -/
theorem RetrySettings.validate_eq_ok_iff {r : RetrySettings} : r.validate = .ok () ↔
    r.maxAttempts ≠ 0 ∧ r.multiplier.isFinite = true ∧ r.multiplier.lt (.ofNat 1) = false ∧
      r.initialDelay ≤ r.maxDelay := by
  rw [Duration.le_def, ← Nat.not_lt, ← Duration.lt_def]
  unfold RetrySettings.validate
  grind

namespace Settings

variable {s : Settings}

/-- The delays of the retry section stay in order. -/
private theorem validate_retry_cutToMillis (h : s.retry.validate = .ok ()) :
    s.cutToMillis.retry.validate = .ok () := by
  obtain ⟨hattempts, hfinite, hmultiplier, hdelays⟩ := RetrySettings.validate_eq_ok_iff.1 h
  exact RetrySettings.validate_eq_ok_iff.2
    ⟨hattempts, hfinite, hmultiplier, Duration.cutToMillis_le_cutToMillis hdelays⟩

/-- The breaker section is not checked for its span. -/
private theorem validate_breaker_cutToMillis :
    s.cutToMillis.breaker.validate = s.breaker.validate := rfl

/-- The deadline is checked for being some time, whatever it was before. -/
private theorem validate_timeout_cutToMillis : s.cutToMillis.timeout.validate =
    if s.timeout.limit.any (·.nanos < 10 ^ 6) then .error .noTime else .ok () := by
  cases hlimit : s.timeout.limit with
  | none => simp [cutToMillis, TimeoutSettings.validate, hlimit]
  | some limit =>
    simp [cutToMillis, TimeoutSettings.validate, hlimit, Duration.cutToMillis_eq_zero_iff]

/-! ## All sections -/

/-- Settings in order are in order when they are cut down, but for a deadline that is shorter than a
millisecond. -/
theorem validate_cutToMillis (h : s.validate = .ok ()) : s.cutToMillis.validate =
    if s.timeout.limit.any (·.nanos < 10 ^ 6) then .error .noTime else .ok () := by
  obtain ⟨hretry, hbreaker, hbulkhead, -⟩ := sections_of_validate h
  have hbulkhead : s.cutToMillis.bulkhead.validate = .ok () := hbulkhead
  unfold validate
  rw [validate_retry_cutToMillis hretry, validate_breaker_cutToMillis, hbreaker, hbulkhead,
    validate_timeout_cutToMillis]
  rfl

/-- Settings that are in order can be saved and read back. The retries, the breaker and the bulkhead
are in order again. So is everything, unless there is a deadline shorter than a millisecond: this
one comes back without any time, and is refused as such. -/
theorem saved_in_order (h : s.validate = .ok ()) (d : Dialect) :
    ∃ t, ofDocument? d s.toDocument = some t ∧
      t.retry.validate = .ok () ∧ t.breaker.validate = .ok () ∧ t.bulkhead.validate = .ok () ∧
      (t.validate = .ok () ↔ ∀ limit ∈ s.timeout.limit, 10 ^ 6 ≤ limit.nanos) ∧
      ∀ limit ∈ s.timeout.limit, limit.nanos < 10 ^ 6 →
        t.timeout.limit = some .zero ∧ t.validate = .error .noTime := by
  obtain ⟨hread, -⟩ := document_round_trip s d
  obtain ⟨hretry, hbreaker, hbulkhead, -⟩ := sections_of_validate h
  refine ⟨s.cutToMillis, hread, validate_retry_cutToMillis hretry, hbreaker, hbulkhead, ?_, ?_⟩
  · rw [validate_cutToMillis h]
    cases s.timeout.limit <;> simp
  · intro limit hlimit hbrief
    have hlimit : s.timeout.limit = some limit := hlimit
    have hzero : limit.cutToMillis = .zero := (limit.cutToMillis_eq_zero_iff).2 hbrief
    refine ⟨by simp [cutToMillis, hlimit, hzero], ?_⟩
    rw [validate_cutToMillis h]
    simp [hlimit, hbrief]

/-- Delays that come back as the same span are still in order, and so is the shortest deadline that
comes back. One nanosecond less is refused. -/
theorem saved_in_order_shortest :
    let s (limit : Duration) : Settings := { standard with
      retry.initialDelay := ⟨1500000, by decide⟩
      retry.maxDelay := ⟨1999999, by decide⟩
      timeout.limit := some limit }
    let shortest : Duration := .ofMillis 1
    let brief : Duration := ⟨999999, by decide⟩
    (s shortest).validate = .ok () ∧ (s brief).validate = .ok () ∧ brief.nanos < 10 ^ 6 ∧
    (∃ t, ofDocument? ⟨false, false⟩ (s shortest).toDocument = some t ∧ t.validate = .ok ()) ∧
    ∃ t, ofDocument? ⟨true, true⟩ (s brief).toDocument = some t ∧ t.retry.validate = .ok () ∧
      t.timeout.limit = some .zero ∧ t.validate = .error .noTime := by
  intro s shortest brief
  have hshortest : (s shortest).validate = .ok () := by decide +kernel
  have hbrief : (s brief).validate = .ok () := by decide +kernel
  have hless : brief.nanos < 10 ^ 6 := by decide
  obtain ⟨t, ht, -, -, -, hiff, -⟩ := saved_in_order hshortest ⟨false, false⟩
  obtain ⟨u, hu, hretry, -, -, -, hrefused⟩ := saved_in_order hbrief ⟨true, true⟩
  have hlong : ∀ limit ∈ (s shortest).timeout.limit, 10 ^ 6 ≤ limit.nanos := by
    rintro limit ⟨⟩
    decide
  exact ⟨hshortest, hbrief, hless, ⟨t, ht, hiff.2 hlong⟩, u, hu, hretry, hrefused brief rfl hless⟩

/-- Settings with a deadline of half a millisecond are in order, and their JSON text is read back as
settings that are not. -/
theorem saved_out_of_order :
    let s : Settings := { standard with timeout.limit := some ⟨500000, by decide⟩ }
    let back : Settings := { s with timeout.limit := some .zero }
    s.validate = .ok () ∧ SettingsFormat.json.read? s.toJson = some back ∧
      back.validate = .error .noTime := by
  intro s back
  refine ⟨by decide +kernel, ?_, by decide +kernel⟩
  -- What is written as characters is read as characters.
  rw [SettingsFormat.read?, toJson, Document.toJson, Document.ofJson?, String.toList_ofList]
  decide +kernel

end Settings

end Safeguard
