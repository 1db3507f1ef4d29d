import Safeguard.Signal.Sample
import Safeguard.Proofs.RetryDelay

/-!
# What the instruments show of a recording

A signal is kept in two ways: as an entry of a recording, which answers questions about a name, and
as samples, which move instruments that carry the name as a label. Each instrument takes at most one
reading from a signal, so what it shows of a whole recording is a question about the recording:
a counter shows how many signals of its kind there are, and a gauge or a histogram shows the
contents of those signals in order. Signals under other names move none of these instruments.

## Key results

- `total_ofRecording`, `filterMap_ofRecording`: from one signal to what an instrument shows
- `level_ofRecording`: the gauge of a breaker shows the last state told under its name
- `readings_under`, `Signal.answers_under`: signals under other names are left out
- `instruments_agree`: every instrument of a name, next to the recording
-/

namespace Safeguard

/-! ## Labels -/

private theorem BreakerState.label_inj {s t : BreakerState} : s.label = t.label ↔ s = t := by
  cases s <;> cases t <;> decide

/-- The label of a kind of fault says which it is. -/
private theorem FaultKind.ofLabel?_label (k : FaultKind) : ofLabel? k.label = some k := by
  cases k <;> decide

/-- Different kinds of faults have different labels. -/
private theorem FaultKind.label_inj {k l : FaultKind} : k.label = l.label ↔ k = l := by
  refine ⟨fun h => Option.some.inj ?_, congrArg label⟩
  rw [← ofLabel?_label, h, ofLabel?_label]

/-! ## Signals under one name -/

namespace Signal

variable {name : String} (recording : List Signal)

private theorem under_cons (signal : Signal) : under name (signal :: recording) =
    if signal.name = name then signal :: under name recording else under name recording := by
  by_cases h : signal.name = name <;> simp [under, h]

/-- A question that picks something from signals under a name only. -/
private theorem filterMap_under {α : Type} {f : Signal → Option α}
    (h : ∀ signal, signal.name ≠ name → f signal = none) :
    (under name recording).filterMap f = recording.filterMap f := by
  -- By induction on the recording; a signal under another name is passed over on both sides.
  induction recording with
  | nil => rfl
  | cons signal recording ih =>
    rw [under_cons]
    split
    · rw [List.filterMap_cons, List.filterMap_cons, ih]
    · next hne => rw [List.filterMap_cons_none (h signal hne), ih]

/-- A question that counts signals under a name only. -/
private theorem countP_under {p : Signal → Bool}
    (h : ∀ signal, signal.name ≠ name → p signal = false) :
    (under name recording).countP p = recording.countP p := by
  rw [under, List.countP_filter]
  refine List.countP_congr fun signal _ => ?_
  by_cases hname : signal.name = name
  · simp [hname]
  · simp [h signal hname]

/-- All that a recording answers about a name. -/
def answers (name : String) (recording : List Signal) :
    List UInt32 × List BreakerState × List UInt64 × List FaultKind × Nat × Nat :=
  (retryAttempts name recording, stateChanges name recording, durations name recording,
    failures name recording, rejectionCount name recording, successCount name recording)

/-- What a recording answers about a name is left to the signals under that name. -/
theorem answers_under (name : String) (recording : List Signal) :
    answers name (under name recording) = answers name recording := by
  simp only [answers, Prod.mk.injEq]
  -- The questions about contents look at one kind of signal each, the other two count.
  refine ⟨filterMap_under _ fun signal hne => ?_, filterMap_under _ fun signal hne => ?_,
    filterMap_under _ fun signal hne => ?_, filterMap_under _ fun signal hne => ?_,
    countP_under _ fun signal hne => decide_eq_false fun heq => hne (heq ▸ rfl),
    countP_under _ fun signal hne => decide_eq_false fun heq => hne (heq ▸ rfl)⟩
  · cases signal with
    | retryAttempt => exact if_neg hne
    | _ => rfl
  · cases signal with
    | stateChange => exact if_neg hne
    | _ => rfl
  · cases signal with
    | operationDuration => exact if_neg hne
    | _ => rfl
  · cases signal with
    | operationFailure => exact if_neg hne
    | _ => rfl

end Signal

namespace Sample

/-! ## One signal more -/

section

variable (metric : String) (labels : List (String × String)) (signal : Signal)
  (recording : List Signal)

private theorem readings_cons : readings metric labels (ofRecording (signal :: recording)) =
    readings metric labels (ofSignal signal) ++ readings metric labels (ofRecording recording) := by
  simp [readings, ofRecording]

private theorem total_cons : total metric labels (ofRecording (signal :: recording)) =
    total metric labels (ofSignal signal) + total metric labels (ofRecording recording) := by
  unfold total
  rw [readings_cons, List.map_append]
  exact List.sum_append_nat

end

section

variable {metric : String} {labels : List (String × String)} (recording : List Signal)

/-- A counter that some signals move by one shows how many of these there are. -/
theorem total_ofRecording {p : Signal → Bool}
    (h : ∀ signal, total metric labels (ofSignal signal) = if p signal then 1 else 0) :
    total metric labels (ofRecording recording) = recording.countP p := by
  induction recording with
  | nil => rfl
  | cons signal recording ih => rw [total_cons, h, ih, List.countP_cons, Nat.add_comm]

/-- An instrument that takes one reading from some signals keeps what these contain, in order. -/
theorem filterMap_ofRecording {α : Type} {view : Reading → Option α} {f : Signal → Option α}
    (h : ∀ signal, (readings metric labels (ofSignal signal)).filterMap view = (f signal).toList) :
    (readings metric labels (ofRecording recording)).filterMap view = recording.filterMap f := by
  induction recording with
  | nil => rfl
  | cons signal recording ih =>
    rw [readings_cons, List.filterMap_append, h, ih, List.filterMap_cons]
    cases f signal <;> rfl

end

/-! ## The instruments of a name

Each proof looks at one signal. A signal of another kind goes to another metric, so nothing but its
kind is read; one of the same kind is taken if the labels are those of the instrument. -/

variable (name : String) (recording : List Signal)

private theorem total_retryAttempts : total retryAttempts [("name", name)] (ofRecording recording) =
    (Signal.retryAttempts name recording).length := by
  rw [Signal.retryAttempts, List.length_filterMap_eq_countP]
  refine total_ofRecording recording fun signal => ?_
  cases signal with
  | retryAttempt m attempt => by_cases hm : m = name <;> simp [total, readings, ofSignal, hm]
  | _ => rfl

private theorem total_stateChanges (state : BreakerState) :
    total stateChanges [("name", name), ("state", state.label)] (ofRecording recording) =
      (Signal.stateChanges name recording).count state := by
  rw [Signal.stateChanges, List.count_filterMap]
  refine total_ofRecording recording fun signal => ?_
  cases signal with
  | stateChange m s =>
    -- The metric is that of the gauge as well, so the state is read only where the name is right.
    by_cases hm : m = name <;> by_cases hs : s = state <;>
      simp [total, readings, ofSignal, stateChanges, stateLevel, BreakerState.label_inj, hm, hs]
  | _ => rfl

private theorem total_bulkheadRejections :
    total bulkheadRejections [("name", name)] (ofRecording recording) =
      Signal.rejectionCount name recording := by
  refine total_ofRecording recording fun signal => ?_
  cases signal with
  | bulkheadRejection m => by_cases hm : m = name <;> simp [total, readings, ofSignal, hm]
  | _ => rfl

private theorem total_successes :
    total operations [("name", name), ("outcome", "success"), ("kind", "none")]
      (ofRecording recording) = Signal.successCount name recording := by
  refine total_ofRecording recording fun signal => ?_
  cases signal with
  | operationSuccess m => by_cases hm : m = name <;> simp [total, readings, ofSignal, hm]
  -- Values and faults share a metric and are told apart by the label of the outcome.
  | operationFailure m kind => simp [total, readings, ofSignal]
  | _ => rfl

private theorem total_failures (kind : FaultKind) :
    total operations [("name", name), ("outcome", "failure"), ("kind", kind.label)]
      (ofRecording recording) = (Signal.failures name recording).count kind := by
  rw [Signal.failures, List.count_filterMap]
  refine total_ofRecording recording fun signal => ?_
  cases signal with
  | operationSuccess m => simp [total, readings, ofSignal]
  | operationFailure m k =>
    by_cases hm : m = name <;> by_cases hk : k = kind <;>
      simp [total, readings, ofSignal, FaultKind.label_inj, hm, hk]
  | _ => rfl

private theorem values_operationDurations :
    values operationDurations [("name", name)] (ofRecording recording) =
      (Signal.durations name recording).map fun millis => .ofNat millis.toNat := by
  rw [Signal.durations, List.map_filterMap]
  refine filterMap_ofRecording recording fun signal => ?_
  cases signal with
  | operationDuration m millis => by_cases hm : m = name <;> simp [readings, ofSignal, hm]
  | _ => rfl

/-- The level that a reading sets a gauge to. -/
def setting? : Reading → Option Binary64
  | .set x => some x
  | _ => none

private theorem level_eq (metric : String) (labels : List (String × String))
    (samples : List Sample) :
    level metric labels samples =
      ((readings metric labels samples).filterMap setting?).getLast? := rfl

/-- The settings of a breaker's gauge are the states told under its name. -/
private theorem settings_ofRecording (name : String) (recording : List Signal) :
    (readings stateLevel [("name", name)] (ofRecording recording)).filterMap setting? =
      (Signal.stateChanges name recording).map fun state => .ofNat state.gauge := by
  rw [Signal.stateChanges, List.map_filterMap]
  refine filterMap_ofRecording recording fun signal => ?_
  cases signal with
  | stateChange m state =>
    by_cases hm : m = name <;> simp [readings, ofSignal, stateLevel, stateChanges, setting?, hm]
  | _ => rfl

/-- The gauge of a breaker shows the last state told under its name, if there is one. -/
theorem level_ofRecording (name : String) (recording : List Signal) :
    level stateLevel [("name", name)] (ofRecording recording) =
      (Signal.stateChanges name recording).getLast?.map fun state => .ofNat state.gauge := by
  rw [level_eq, settings_ofRecording, List.getLast?_map]

/-! ## No other instruments, no other names -/

/-- The kinds of instruments: a metric, and the labels besides the name. -/
def instrumentKinds : List (String × List (String × String)) :=
  [(retryAttempts, []), (stateLevel, []), (bulkheadRejections, []), (operationDurations, []),
    (operations, [("outcome", "success"), ("kind", "none")])] ++
  [BreakerState.closed, .opened, .halfOpen].map
    (fun state => (stateChanges, [("state", state.label)])) ++
  FaultKind.all.map (fun kind => (operations, [("outcome", "failure"), ("kind", kind.label)]))

private theorem stateChanges_mem_instrumentKinds (state : BreakerState) :
    (stateChanges, [("state", state.label)]) ∈ instrumentKinds := by
  cases state <;> decide

private theorem failures_mem_instrumentKinds (kind : FaultKind) :
    (operations, [("outcome", "failure"), ("kind", kind.label)]) ∈ instrumentKinds := by
  cases kind <;> decide

/-- The instruments that carry a name: a metric and all labels of each. -/
def instruments (name : String) : List (String × List (String × String)) :=
  instrumentKinds.map fun (metric, rest) => (metric, ("name", name) :: rest)

variable {name}

/-- A sample is taken by an instrument that carries the name of its signal. -/
private theorem mem_instruments_of_mem_ofSignal {x : Sample} {signal : Signal}
    (hx : x ∈ ofSignal signal) :
    (x.metric, x.labels) ∈ instruments signal.name := by
  -- The name is the first label of every sample.
  suffices h : ∃ rest, x.labels = ("name", signal.name) :: rest ∧
      (x.metric, rest) ∈ instrumentKinds by
    obtain ⟨rest, hlabels, hkind⟩ := h
    rw [hlabels]
    exact List.mem_map_of_mem hkind
  cases signal with
  | stateChange m state =>
    -- The one signal with two samples.
    rcases List.mem_cons.1 hx with rfl | hx
    · exact ⟨_, rfl, stateChanges_mem_instrumentKinds state⟩
    · rw [List.mem_singleton.1 hx]
      exact ⟨_, rfl, by simp [instrumentKinds]⟩
  | operationFailure m kind =>
    rw [List.mem_singleton.1 hx]
    exact ⟨_, rfl, failures_mem_instrumentKinds kind⟩
  | retryAttempt | bulkheadRejection | operationDuration | operationSuccess =>
    rw [List.mem_singleton.1 hx]
    exact ⟨_, rfl, by simp [instrumentKinds]⟩

/-- An instrument carries no other name. -/
private theorem mem_labels_of_mem_instruments {instrument : String × List (String × String)}
    {m : String} (h : instrument ∈ instruments m) : ("name", name) ∈ instrument.2 ↔ m = name := by
  obtain ⟨kind, hkind, rfl⟩ := List.mem_map.1 h
  -- The name is the first label, and no label behind it is called so.
  have hrest : ∀ kind ∈ instrumentKinds, ∀ label ∈ kind.2, label.1 ≠ "name" := by decide
  rw [List.mem_cons, Prod.mk.injEq, eq_self_iff_true, true_and, eq_comm]
  exact or_iff_left fun hmem => hrest kind hkind _ hmem rfl

/-- An instrument that carries a name takes nothing from a signal under another name. -/
private theorem readings_ofSignal_of_ne {metric : String} {labels : List (String × String)}
    {signal : Signal} (hlabel : ("name", name) ∈ labels) (hne : signal.name ≠ name) :
    readings metric labels (ofSignal signal) = [] := by
  rw [readings, List.map_eq_nil_iff, List.filter_eq_nil_iff]
  intro x hx htaken
  -- A sample that is taken has the labels of the instrument, the name among them.
  rw [Bool.and_eq_true, beq_iff_eq, beq_iff_eq] at htaken
  rw [← htaken.2] at hlabel
  exact hne ((mem_labels_of_mem_instruments (mem_instruments_of_mem_ofSignal hx)).1 hlabel)

/-- An instrument that carries a name takes its readings from the signals under that name. -/
theorem readings_under {metric : String} {labels : List (String × String)}
    (hlabel : ("name", name) ∈ labels) :
    readings metric labels (ofRecording (Signal.under name recording)) =
      readings metric labels (ofRecording recording) := by
  induction recording with
  | nil => rfl
  | cons signal recording ih =>
    rw [Signal.under_cons]
    split
    · rw [readings_cons, readings_cons, ih]
    · next hne => rw [readings_cons, readings_ofSignal_of_ne hlabel hne, ih, List.nil_append]

/-- The instruments that carry a name, next to the recording of the same signals. The counters show
how many retries, moves to each state, refusals, values and faults of each kind were told under the
name. The gauge shows the last state told, and nothing if there is none. The histogram holds the
durations in order, each as the nearest binary64 number; those of at most `2^53` milliseconds read
back as they were. There are no other instruments, and signals under other names change neither what
these show nor what the recording answers about the name. -/
theorem instruments_agree (name : String) (recording : List Signal) :
    let samples := ofRecording recording
    total retryAttempts [("name", name)] samples =
        (Signal.retryAttempts name recording).length ∧
      (∀ state : BreakerState,
        total stateChanges [("name", name), ("state", state.label)] samples =
          (Signal.stateChanges name recording).count state) ∧
      level stateLevel [("name", name)] samples =
        (Signal.stateChanges name recording).getLast?.map (fun state => .ofNat state.gauge) ∧
      total bulkheadRejections [("name", name)] samples = Signal.rejectionCount name recording ∧
      total operations [("name", name), ("outcome", "success"), ("kind", "none")] samples =
        Signal.successCount name recording ∧
      (∀ kind : FaultKind,
        total operations [("name", name), ("outcome", "failure"), ("kind", kind.label)] samples =
          (Signal.failures name recording).count kind) ∧
      values operationDurations [("name", name)] samples =
        (Signal.durations name recording).map (fun millis => .ofNat millis.toNat) ∧
      ((∀ millis ∈ Signal.durations name recording, millis.toNat ≤ 2 ^ 53) →
        (values operationDurations [("name", name)] samples).map (·.roundToWord) =
          Signal.durations name recording) ∧
      (∀ x ∈ samples, ∃ signal ∈ recording, (x.metric, x.labels) ∈ instruments signal.name) ∧
      (∀ metric labels, ("name", name) ∈ labels →
        readings metric labels (ofRecording (Signal.under name recording)) =
          readings metric labels samples) ∧
      Signal.answers name (Signal.under name recording) = Signal.answers name recording := by
  refine ⟨total_retryAttempts name recording, total_stateChanges name recording,
    level_ofRecording name recording, total_bulkheadRejections name recording,
    total_successes name recording, total_failures name recording,
    values_operationDurations name recording, fun hexact => ?_, fun x hx => ?_,
    fun metric labels hlabel => readings_under recording hlabel,
    Signal.answers_under name recording⟩
  -- Durations up to `2^53` are not rounded on their way through binary64.
  · rw [values_operationDurations, List.map_map]
    have hread : ∀ millis ∈ Signal.durations name recording,
        (Binary64.ofNat millis.toNat).roundToWord = millis := fun millis hmillis =>
      Binary64.roundToWord_ofNat (hexact millis hmillis)
    exact (List.map_congr_left (g := id) hread).trans (List.map_id _)
  · obtain ⟨signal, hsignal, hx⟩ := List.mem_flatMap.1 hx
    exact ⟨signal, hsignal, mem_instruments_of_mem_ofSignal hx⟩

/-- Signals under two names, mixed: the instruments of the first one. -/
theorem instruments_agree_mixed :
    let recording : List Signal :=
      [.retryAttempt "db" 2, .retryAttempt "api" 2, .stateChange "db" .opened,
        .operationFailure "db" .timedOut, .operationFailure "api" .timedOut,
        .stateChange "db" .halfOpen, .stateChange "api" .opened, .operationDuration "db" 40,
        .operationDuration "api" 7, .operationDuration "db" 2, .operationSuccess "db",
        .operationFailure "db" .operation]
    let samples := ofRecording recording
    total retryAttempts [("name", "db")] samples = 1 ∧
      total stateChanges [("name", "db"), ("state", "open")] samples = 1 ∧
      level stateLevel [("name", "db")] samples = some (.ofNat 1) ∧
      total operations [("name", "db"), ("outcome", "failure"), ("kind", "timeout")] samples = 1 ∧
      (∀ millis ∈ Signal.durations "db" recording, millis.toNat ≤ 2 ^ 53) ∧
      (values operationDurations [("name", "db")] samples).map (·.roundToWord) = [40, 2] ∧
      ("name", "db") ∈ [("name", "db")] ∧
      readings operationDurations [("name", "db")] (ofRecording (Signal.under "db" recording)) =
        readings operationDurations [("name", "db")] samples := by
  intro recording
  have hexact : ∀ millis ∈ Signal.durations "db" recording, millis.toNat ≤ 2 ^ 53 := by
    have hdurations : Signal.durations "db" recording = [40, 2] := rfl
    simp [hdurations]
  have hlabel : ("name", "db") ∈ [("name", "db")] := List.mem_singleton.2 rfl
  obtain ⟨hretries, hchanges, hlevel, -, -, hfailures, -, hdurations, -, hunder, -⟩ :=
    instruments_agree "db" recording
  exact ⟨hretries, hchanges .opened, hlevel, hfailures .timedOut, hexact, hdurations hexact, hlabel,
    hunder _ _ hlabel⟩

end Sample

end Safeguard
