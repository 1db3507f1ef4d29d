import Safeguard.Layer.Retry
import Safeguard.Proofs.DeadlineCut

/-!
# A deadline around all attempts

A deadline can stand around the whole of a retried operation instead of a single attempt. It cuts
the run wherever it falls, in an attempt, in the delay between two attempts, or on the millisecond
at which one of them ends. What is seen of the call is then what is seen of the retries alone up to
that time.

## Key results

- `report_of_runs`: the report on a call, read off a derivation
- `retries_cut_off`: retries under a deadline, against the retries alone
-/

namespace Safeguard

/-- The report with what became of the call changed. -/
def Report.withEnding {ρ σ : Type} (r : Report ρ) (ending : Option (Ending σ)) : Report σ :=
  { ending, starts := r.starts, finished := r.finished, elapsed := r.elapsed }

section

variable {β ρ : Type} {x : Activity β ρ} {w : World} {s : Scene} {t : List (Nat × Effect)}
  {r : Option (Ending ρ)}

/-- A call is what a derivation from its scene says. -/
private theorem World.call_of_runs (h : x.Runs ⟨w, .empty⟩ t r s) :
    w.call x = (s.record.report w.now s.world.now r, s.world) := by
  rw [World.call, h.run_eq]

/-- The attempts of a call begin when its trace says. -/
private theorem starts_of_runs (h : x.Runs ⟨w, .empty⟩ t r s) :
    s.record.starts.toList = attemptTimes (sights t) := by
  rw [h.starts_eq]
  rfl

end

/-- A time counted from the beginning is in time if the time itself is. -/
private theorem filter_map_sub (l : List Nat) (began due : Nat) :
    (l.map (· - began)).filter (· ≤ due) =
      (l.filter (· ≤ began + due)).map (· - began) := by
  -- The two tests of a time are the same one.
  rw [List.filter_map]
  congr 1
  refine List.filter_congr fun now _ => ?_
  simp only [Function.comp_apply, decide_eq_decide]
  omega

open Deadline in
/-- Retries of a script under a deadline around all of them. If the retries alone end no later than
the deadline, the call makes the same attempts, tells the same, leaves the same world and returns
their result as that of its operation. If they do not, it fails at the deadline, and what is seen
of it is what is seen of the retries alone up to then. -/
theorem retries_cut_off {β : Type} (name retryName : String) (limit : Duration)
    (policy : RetryPolicy) (script : Script β) (w : World) :
    let alone := Retry.run retryName policy script.operation
    let guarded := guard ⟨name, ⟨limit, .cancel⟩⟩ alone
    let due := limit.ceilMillis
    ((w.call alone).1.ending.isSome → (w.call alone).2.now ≤ w.now + due →
      (w.call guarded).1 =
        (w.call alone).1.withEnding ((w.call alone).1.ending.map wrapped) ∧
      (w.call guarded).2 = (w.call alone).2 ∧
      sights (guarded.trace ⟨w, .empty⟩) = sights (alone.trace ⟨w, .empty⟩)) ∧
    (((w.call alone).1.ending.isSome → w.now + due < (w.call alone).2.now) →
      (w.call guarded).1.ending = some (.returned (.error (.timedOut limit))) ∧
      (w.call guarded).1.elapsed = some due ∧
      (w.call guarded).1.starts = (w.call alone).1.starts.filter (· ≤ due) ∧
      (w.call guarded).2.now = w.now + due ∧
      sights (guarded.trace ⟨w, .empty⟩) =
        upTo (w.now + due) (sights (alone.trace ⟨w, .empty⟩)) ∧
      (w.listening = true → Notice.signals (w.call guarded).2.notices =
        Notice.signals w.notices ++
          toldSignals (upTo (w.now + due) (sights (alone.trace ⟨w, .empty⟩))))) := by
  intro alone guarded due
  have hplain : alone.Meets Effect.Plain fun _ => True :=
    Retry.meets_run retryName policy (fun _ => trivial) script.meets_operation (fun _ _ => trivial)
      (fun _ _ => trivial) (fun _ _ _ => trivial) fun _ => trivial
  -- One derivation of the retries alone. The deadline keeps it whole or keeps its beginning.
  obtain ⟨t, r, s, halone⟩ := alone.exists_runs ⟨w, .empty⟩
  rw [World.call_of_runs halone, halone.trace_eq]
  refine ⟨fun hended hin => ?_, fun hlate => ?_⟩
  · obtain ⟨ending, rfl⟩ := Option.isSome_iff_exists.1 hended
    have hguard : guarded.Runs ⟨w, .empty⟩ t (some (wrapped ending)) s :=
      runs_guard name limit halone hin
    rw [World.call_of_runs hguard, hguard.trace_eq]
    refine ⟨?_, rfl, rfl⟩
    -- The deadline keeps whether the call returned.
    cases ending <;> rfl
  · obtain ⟨cut, hguard, hnow⟩ := runs_guard_cut name limit halone hplain hlate
    have hnow : cut.world.now = w.now + due := hnow
    -- The log line at the deadline is not seen.
    have hsights : sights (upTo (w.now + due) t ++
        (expiry ⟨name, ⟨limit, .cancel⟩⟩).map fun notice => (w.now + due, .tell notice)) =
          upTo (w.now + due) (sights t) := by
      rw [sights_append, sights_upTo]
      exact List.append_nil _
    have hcall := World.call_of_runs hguard
    rw [hcall, hguard.trace_eq]
    refine ⟨rfl, ?_, ?_, hnow, hsights, fun hlistening => ?_⟩
    · show some (cut.world.now - w.now) = some due
      rw [hnow, Nat.add_sub_cancel_left]
    · show cut.record.starts.toList.map (· - w.now) = (s.record.starts.toList.map _).filter _
      rw [starts_of_runs hguard, starts_of_runs halone, filter_map_sub, hsights, attemptTimes_upTo]
    · have hmeets : guarded.Meets Effect.Plain fun _ => True :=
        Deadline.meets_guard _ trivial (fun _ => trivial) hplain trivial fun _ _ => trivial
      rw [← hsights]
      exact hguard.signals_eq (hguard.effects hmeets) hlistening

open Deadline in
/-- The deadline falls on the millisecond at which the delay is over: the second attempt still
begins. -/
theorem retries_cut_off_at_attempt :
    let limit := Duration.ofMillis 105
    let policy := RetryPolicy.standard
    let script : Script Nat := Script.repeating (.timed (.ofMillis 5) (.error ⟨"x"⟩))
    let alone := Retry.run "api" policy script.operation
    let guarded := guard ⟨"api", ⟨limit, .cancel⟩⟩ alone
    let w := World.start true
    (w.call alone).1.starts = [0, 105, 310] ∧
      w.now + limit.ceilMillis < (w.call alone).2.now ∧
      (w.call guarded).1.ending = some (.returned (.error (.timedOut limit))) ∧
      (w.call guarded).1.starts = [0, 105] ∧
      Notice.signals (w.call guarded).2.notices = [.retryAttempt "api" 2] := by
  intro limit policy script alone guarded w
  have hstarts : (w.call alone).1.starts = [0, 105, 310] := by decide +kernel
  have hlate : w.now + limit.ceilMillis < (w.call alone).2.now := by decide +kernel
  have hdue : limit.ceilMillis = 105 := by decide
  have hsights : toldSignals (upTo (w.now + 105) (sights (alone.trace ⟨w, .empty⟩))) =
      [.retryAttempt "api" 2] := by decide +kernel
  have hsilent : Notice.signals w.notices = [] := rfl
  have hlistening : w.listening = true := rfl
  -- The run is known well enough now, and is not to be computed again.
  clear_value limit policy script w
  obtain ⟨-, hprefix⟩ := retries_cut_off "api" "api" limit policy script w
  obtain ⟨hending, -, hcut, -, -, hsignals⟩ := hprefix fun _ => hlate
  rw [hdue] at hcut hsignals
  refine ⟨hstarts, hlate, hending, ?_, ?_⟩
  · rw [hcut, hstarts]
    rfl
  · rw [hsignals hlistening, hsilent, hsights]
    rfl

end Safeguard
