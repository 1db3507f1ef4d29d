import Safeguard.Layer.Deadline
import Safeguard.Layer.Retry
import Safeguard.Script
import Safeguard.Proofs.ActivityRun

/-!
# What an activity can do

`Activity.Meets E R` says of an activity that every effect it can come to satisfies `E` and every
value it can return satisfies `R`, whatever its effects are answered, however its waits end, and if
it is dropped at a wait. It speaks of the tree and not of a run, so it holds of an activity that
shares its world with others. There is one lemma for each combinator and for each layer below the
breaker.

## Key results

- `Meets.bind`, `Meets.deadline`, `Meets.holding`: the combinators
- `Script.meets_operation`, `Deadline.meets_guard`, `Retry.meets_run`: scripts, deadlines, retries
- `Runs.effects`: the effects of a run
-/

namespace Safeguard

namespace Activity

variable {β α γ ε : Type}

/-- Every effect of the activity satisfies `E` and everything it returns satisfies `R`. -/
inductive Meets (E : Effect → Prop) (R : α → Prop) : Activity β α → Prop where
  | returned {a : α} (h : R a) : Meets E R (.ended (.returned a))
  | panicked (message : String) : Meets E R (.ended (.panicked message))
  | act {e : Effect} {next : e.Answer → Activity β α} (he : E e) (h : ∀ a, Meets E R (next a)) :
      Meets E R (.act e next)
  | wait {w : Wait} {next : Wake β w.limit w.gated → Activity β α}
      (hleaves : ∀ i ∈ w.leaves, E (.leave i)) (h : ∀ wake, Meets E R (next wake)) :
      Meets E R (.wait w next)

namespace Meets

variable {E : Effect → Prop} {R : α → Prop} {S : γ → Prop} {x : Activity β α}

/-! ### Combinators -/

/-- What follows a value may rely on what is known of the value. -/
theorem bind {k : α → Activity β γ} (hx : x.Meets E R) (hk : ∀ a, R a → (k a).Meets E S) :
    (x.bind k).Meets E S := by
  -- Every effect and wait of the first part stays where it is; a value is replaced by what follows
  -- it.
  induction hx with
  | returned h => exact hk _ h
  | panicked message => exact .panicked message
  | act he _ ih => exact .act he ih
  | wait hleaves _ ih => exact .wait hleaves ih

/-- A value that is changed at the end satisfies what the change makes of it. -/
theorem map {f : α → γ} (hx : x.Meets E R) (hf : ∀ a, R a → S (f a)) : (x.map f).Meets E S :=
  hx.bind fun a ha => .returned (hf a ha)

/-- A contract may be weakened at both ends. -/
theorem mono {E' : Effect → Prop} {R' : α → Prop} (hx : x.Meets E R) (he : ∀ e, E e → E' e)
    (hr : ∀ a, R a → R' a) : x.Meets E' R' := by
  induction hx with
  | returned h => exact .returned (hr _ h)
  | panicked message => exact .panicked message
  | act h _ ih => exact .act (he _ h) ih
  | wait hleaves _ ih => exact .wait (fun i hi => he _ (hleaves i hi)) ih

/-- To tell notices at first, each of them has to be allowed. -/
theorem telling {notices : List Notice} (htell : ∀ notice ∈ notices, E (.tell notice))
    (hx : x.Meets E R) : (Activity.telling notices x).Meets E R := by
  induction notices with
  | nil => exact hx
  | cons notice notices ih =>
    exact .act (htell _ List.mem_cons_self) fun _ =>
      ih fun n hn => htell n (List.mem_cons_of_mem _ hn)

/-- To give permits back at first, each of them has to be allowed. -/
theorem leaving {bulkheads : List Nat} (hleave : ∀ i ∈ bulkheads, E (.leave i))
    (hx : x.Meets E R) : (Activity.leaving bulkheads x).Meets E R := by
  induction bulkheads with
  | nil => exact hx
  | cons i bulkheads ih =>
    exact .act (hleave _ List.mem_cons_self) fun _ =>
      ih fun j hj => hleave j (List.mem_cons_of_mem _ hj)

/-- A sleep has no effect. -/
theorem sleep (running : Bool) (ms : Nat) :
    (Activity.sleep running ms : Activity β Unit).Meets E fun _ => True := by
  unfold Activity.sleep
  split
  · exact .wait nofun fun _ => .returned trivial
  · exact .returned trivial

/-- To hold a permit, giving it back has to be allowed. -/
theorem holding {i : Nat} (hleave : E (.leave i)) (hx : x.Meets E R) : (x.holding i).Meets E R := by
  induction hx with
  | returned h => exact .act hleave fun _ => .returned h
  | panicked message => exact .act hleave fun _ => .panicked message
  | act he _ ih => exact .act he ih
  | wait hleaves _ ih =>
    -- The permit is one more that is given back if the activity is dropped here.
    refine .wait (fun j hj => ?_) ih
    rcases List.mem_cons.1 hj with rfl | hj
    · exact hleave
    · exact hleaves j hj

/-- A deadline adds the ending in which nothing was returned. -/
theorem deadline {S : Option α → Prop} (hx : x.Meets E R) (hnone : S none)
    (hsome : ∀ a, R a → S (some a)) (budget : Nat) : (x.deadline budget).Meets E S := by
  induction hx generalizing budget with
  | returned h => exact .returned (hsome _ h)
  | panicked message => exact .panicked message
  | act he _ ih => exact .act he fun a => ih a budget
  | wait hleaves _ ih =>
    -- The time is up before the wait, after it, or during it.
    have dropped : (Activity.leaving _ (Activity.pure none) : Activity β (Option α)).Meets E S :=
      leaving hleaves (.returned hnone)
    unfold Activity.deadline
    split
    · exact dropped
    · split
      · exact .wait hleaves fun wake => ih wake _
      · refine .wait hleaves fun wake => ?_
        cases wake with
        | elapsed => exact dropped
        | opened => exact ih _ _

end Meets

/-! ### Runs -/

variable {E : Effect → Prop} {R : α → Prop} {x : Activity β α} {s s' : Scene}
  {t : List (Nat × Effect)} {r : Option (Ending α)}

/-- The effects of a run are among those that the activity can come to. -/
theorem Runs.effects (h : x.Runs s t r s') (hx : x.Meets E R) : ∀ p ∈ t, E p.2 := by
  induction h with
  | ended | stuck => simp
  | act _ ih =>
    -- The contract of the tree, taken apart at the node where the run is.
    cases hx with
    | act he hnext =>
      intro p hp
      rcases List.mem_cons.1 hp with rfl | hp
      · exact he
      · exact ih (hnext _) p hp
  | elapsed _ _ ih =>
    cases hx with
    | wait _ hnext => exact ih (hnext _)

end Activity

/-! ## Layers -/

open Activity (Meets)

variable {β γ ε : Type}

/-- An operation that a script plays begins attempts and ends them, and does nothing else. -/
theorem Script.meets_operation_of {E : Effect → Prop} (hinvoke : E .invoke)
    (hconclude : E .conclude) (script : Script β) :
    script.operation.Meets E fun _ => True := by
  have concluded (outcome : Outcome β) : (Script.conclude outcome).Meets E fun _ => True := by
    refine .act hconclude fun _ => ?_
    cases outcome with
    | value | error => exact .returned trivial
    | panic => exact .panicked _
  -- One attempt: it begins, waits for its time or its gate, and ends.
  refine .act hinvoke fun n => ?_
  cases script.attempt n with
  | timed delay outcome => exact (Meets.sleep _ _).bind fun _ _ => concluded outcome
  | gated =>
    refine .wait nofun fun wake => ?_
    cases wake with
    | elapsed ms h => nomatch h
    | opened => exact concluded _

/-- It leaves the layers alone. -/
theorem Script.meets_operation (script : Script β) :
    script.operation.Meets Effect.Plain fun _ => True :=
  script.meets_operation_of trivial trivial

/-- A deadline around an attempt tells of overruns, and adds its own fault. -/
theorem Deadline.meets_guard {E : Effect → Prop} {R : Except ε γ → Prop}
    {S : Except (Fault ε) γ → Prop} (d : Deadline) {operation : Activity β (Except ε γ)}
    (hclock : E .clock) (htell : ∀ notice, E (.tell notice)) (hop : operation.Meets E R)
    (hlimit : S (.error (.timedOut d.policy.limit)))
    (hresult : ∀ result, R result → S (result.mapError .operation)) :
    (d.guard operation).Meets E S := by
  unfold Deadline.guard
  split
  -- What the deadline hands on is a result of the operation, or nothing if its time was up.
  · refine (hop.deadline (S := fun o => ∀ result, o = some result → R result) nofun
      (fun a ha result h => by cases h; exact ha) _).bind fun o ho => ?_
    cases o with
    | none => exact .telling (fun notice _ => htell notice) (.returned hlimit)
    | some result => exact .returned (hresult _ (ho _ rfl))
  · exact .act hclock fun _ => hop.bind fun result hr => .act hclock fun _ =>
      .telling (fun notice _ => htell notice) (.returned (hresult _ hr))

/-- Retries tell of attempts, and end with a value, with a failure of the operation, as it is or as
the last of many, or with the refusal of the policy. -/
theorem Retry.meets_run [Seen ε] {E : Effect → Prop} {R : Except ε γ → Prop}
    {S : Except (Fault ε) γ → Prop} (name : String) (policy : RetryPolicy)
    {operation : Activity β (Except ε γ)} (htell : ∀ notice, E (.tell notice))
    (hop : operation.Meets E R)
    (hvalue : ∀ v, R (.ok v) → S (.ok v))
    (hrefused : ∀ e, R (.error e) → S (.error (.operation e)))
    (hexhausted : ∀ attempts e, R (.error e) →
      S (.error (.retryExhausted name attempts (.operation e))))
    (hinvalid : ∀ message, S (.error (.invalidConfiguration message))) :
    (Retry.run name policy operation).Meets E S := by
  have told {notices : List Notice} {x : Activity β (Except (Fault ε) γ)} (hx : x.Meets E S) :
      (Activity.telling notices x).Meets E S := .telling (fun notice _ => htell notice) hx
  -- Only a value that took more than one attempt is logged.
  have succeeded (made : UInt32) (v : γ) (hv : R (.ok v)) :
      (Retry.success made v : Activity β (Except (Fault ε) γ)).Meets E S := by
    unfold Retry.success
    split
    · exact .returned (hvalue v hv)
    · exact told (.returned (hvalue v hv))
  -- Induction on the attempts that are left.
  have looped (left : Nat) (made : UInt32) :
      (Retry.attempts name policy operation left made).Meets E S := by
    induction left generalizing made with
    | zero =>
      refine hop.bind fun result hr => ?_
      cases result with
      | ok v => exact succeeded made v hr
      | error e =>
        dsimp only
        split
        · exact told (.returned (hexhausted _ e hr))
        · exact told (.returned (hrefused e hr))
    | succ left ih =>
      refine hop.bind fun result hr => ?_
      cases result with
      | ok v => exact succeeded made v hr
      | error e =>
        dsimp only
        -- The last attempt has failed: the policy gives up, or refuses to go on anyway.
        split
        · exact told ((Meets.sleep _ _).bind fun _ _ => told (ih _))
        · exact told (.returned (hrefused e hr))
  unfold Retry.run
  split
  · exact .returned (hinvalid _)
  · exact looped _ _

end Safeguard
