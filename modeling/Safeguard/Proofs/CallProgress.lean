import Safeguard.Proofs.ActivityReach
import Safeguard.Proofs.WorldLasting

/-!
# The progress of a call

While a call goes on, attempts begin and outcomes come from outside. `Progress` counts the former
and lists the latter. `Activity.Ensures R p` says of an activity that has come as far as `p` that
whatever it returns satisfies `R` at the progress it has then, whatever its effects are answered and
however its waits end. The record of a call and the outcomes that were fed to it show its progress,
so what an activity ensures can be read off the report on the call.

## Key results

- `Ensures.bind`, `Ensures.holding`: the combinators
- `Ensures.foreground`: a call in the foreground
- `Floor.shows_of_ensures`: a call in the background, whatever is done meanwhile
-/

namespace Safeguard

/-- How far a call has come. -/
structure Progress (β : Type) where
  /-- The attempts that have begun. -/
  made : Nat
  /-- The outcomes from outside that have opened its gates, in order. -/
  used : List (Outcome β)

/-- The progress after a wait. -/
def Progress.after {β : Type} (p : Progress β) {limit : Option Nat} {gated : Bool} :
    Wake β limit gated → Progress β
  | .elapsed _ _ => p
  | .opened _ _ outcome => { p with used := p.used ++ [outcome] }

/-- An effect begins an attempt, or leaves the attempts of the call alone. -/
theorem Scene.starts_perform {e : Effect} (he : e ≠ .invoke) (s : Scene) :
    (s.perform e).2.record.starts = s.record.starts := by
  cases e with
  | invoke => exact absurd rfl he
  | _ => rfl

namespace Activity

variable {β α γ : Type}

/-- Whatever the activity returns satisfies `R` at the progress it has made by then. -/
inductive Ensures (R : Progress β → α → Prop) : Progress β → Activity β α → Prop where
  | returned {p : Progress β} {a : α} (h : R p a) : Ensures R p (.ended (.returned a))
  | panicked {p : Progress β} (message : String) : Ensures R p (.ended (.panicked message))
  | invoke {p : Progress β} {next : Nat → Activity β α}
      (h : Ensures R { p with made := p.made + 1 } (next p.made)) : Ensures R p (.act .invoke next)
  | act {p : Progress β} {e : Effect} {next : e.Answer → Activity β α} (he : e ≠ .invoke)
      (h : ∀ a, Ensures R p (next a)) : Ensures R p (.act e next)
  | wait {p : Progress β} {w : Wait} {next : Wake β w.limit w.gated → Activity β α}
      (h : ∀ wake, Ensures R (p.after wake) (next wake)) : Ensures R p (.wait w next)

namespace Ensures

variable {R : Progress β → α → Prop} {S : Progress β → γ → Prop} {p : Progress β}
  {x : Activity β α}

/-! ### Combinators -/

/-- What follows begins at the progress that the first part has made. -/
theorem bind {k : α → Activity β γ} (hx : x.Ensures R p)
    (hk : ∀ q a, R q a → (k a).Ensures S q) : (x.bind k).Ensures S p := by
  induction hx with
  | returned h => exact hk _ _ h
  | panicked message => exact .panicked message
  | invoke _ ih => exact .invoke ih
  | act he _ ih => exact .act he ih
  | wait _ ih => exact .wait ih

/-- A weaker promise is kept too. -/
theorem mono {R' : Progress β → α → Prop} (hx : x.Ensures R p) (h : ∀ q a, R q a → R' q a) :
    x.Ensures R' p := by
  induction hx with
  | returned ha => exact .returned (h _ _ ha)
  | panicked message => exact .panicked message
  | invoke _ ih => exact .invoke ih
  | act he _ ih => exact .act he ih
  | wait _ ih => exact .wait ih

/-- A result is changed on the way out. -/
theorem map {f : α → γ} (hx : x.Ensures R p) (hf : ∀ q a, R q a → S q (f a)) :
    (x.map f).Ensures S p :=
  hx.bind fun q a ha => .returned (hf q a ha)

/-- Notices make no progress. -/
theorem telling {notices : List Notice} (hx : x.Ensures R p) :
    (Activity.telling notices x).Ensures R p := by
  induction notices with
  | nil => exact hx
  | cons notice notices ih => exact .act nofun fun _ => ih

/-- A sleep makes no progress. -/
theorem sleep (running : Bool) (ms : Nat) (p : Progress β) :
    (Activity.sleep running ms).Ensures (fun q (_ : Unit) => q = p) p := by
  unfold Activity.sleep
  split
  · refine .wait fun wake => ?_
    cases wake with
    | elapsed => exact .returned rfl
    | opened h => exact absurd h Bool.false_ne_true
  · exact .returned rfl

/-- Neither does the return of a permit. -/
theorem holding (i : Nat) (hx : x.Ensures R p) : (x.holding i).Ensures R p := by
  induction hx with
  | returned h => exact .act nofun fun _ => .returned h
  | panicked message => exact .act nofun fun _ => .panicked message
  | invoke _ ih => exact .invoke ih
  | act he _ ih => exact .act he ih
  | wait _ ih => exact .wait ih

/-- Nor the return of several. -/
theorem leaving (bulkheads : List Nat) (hx : x.Ensures R p) :
    (Activity.leaving bulkheads x).Ensures R p := by
  induction bulkheads with
  | nil => exact hx
  | cons i bulkheads ih => exact .act nofun fun _ => ih

/-- A wait under a deadline: it is cut off, unless it ends by itself in time or is opened. -/
theorem deadline_wait {w : Wait} {next : Wake β w.limit w.gated → Activity β α} {budget : Nat}
    {R : Progress β → Option α → Prop}
    (hover : (∀ ms, w.limit = some ms → budget < ms) → R p none)
    (helapsed : ∀ ms h, ms ≤ budget → ((next (.elapsed ms h)).deadline (budget - ms)).Ensures R p)
    (hopened : ∀ h after outcome, ((next (.opened h after outcome)).deadline
      (budget - after)).Ensures R (p.after (.opened h after outcome : Wake β w.limit w.gated))) :
    ((Activity.wait w next).deadline budget).Ensures R p := by
  have dropped (h : ∀ ms, w.limit = some ms → budget < ms) :
      (Activity.leaving w.leaves (.pure none) : Activity β (Option α)).Ensures R p :=
    leaving w.leaves (.returned (hover h))
  unfold Activity.deadline
  split
  -- No time is left, and every wait takes some.
  · next hzero =>
    refine dropped fun ms hms => ?_
    rw [hzero]
    exact w.limit_pos ms hms
  · split
    · next hends =>
      refine .wait fun wake => ?_
      cases wake with
      | elapsed ms h => exact helapsed ms h (by simpa [Wait.endsWithin, h] using hends)
      | opened h after outcome => exact hopened h after outcome
    · next hends =>
      -- The deadline comes first.
      refine .wait fun wake => ?_
      cases wake with
      | elapsed => exact dropped fun ms hms => by simpa [Wait.endsWithin, hms] using hends
      | opened h after outcome => exact hopened h after outcome

/-! ### Calls in the foreground -/

/-- What a call in the foreground returns is ensured at the progress that its record shows; no
outcome comes from outside. -/
theorem foreground (hx : x.Ensures R p) {record : Record} (hrecord : record.starts.size = p.made)
    (f : Floor β α) {a : α} (h : (Floor.foreground x record f).1 = some (.returned a)) :
    R ⟨(Floor.foreground x record f).2.1.starts.size, p.used⟩ a := by
  induction hx generalizing record f with
  | @returned p a' ha =>
    obtain rfl : a' = a := by simpa [Floor.foreground] using h
    show R ⟨record.starts.size, p.used⟩ a'
    rw [hrecord]
    exact ha
  | panicked message => simp [Floor.foreground] at h
  | @invoke p next _ ih =>
    have hanswer : (Scene.perform ⟨f.world, record⟩ .invoke).1 = p.made := hrecord
    have hnext : Floor.foreground (.act .invoke next) record f = Floor.foreground (next p.made)
        { record with starts := record.starts.push f.world.now } f := by
      -- An attempt is told its number, which is how many have begun.
      rw [← hanswer]
      rfl
    rw [hnext] at h ⊢
    exact ih (by simp [hrecord]) f h
  | @act p e next he _ ih =>
    have hstarts : (Scene.perform ⟨f.world, record⟩ e).2.record.starts.size = p.made := by
      rw [Scene.starts_perform he]
      exact hrecord
    exact ih _ hstarts _ h
  | wait _ ih =>
    simp only [Floor.foreground] at h ⊢
    split at h
    · exact ih _ hrecord _ h
    · simp at h

/-! ### Calls in the background -/

/-- How far a call gets in the background that was fed `outs` so far: those it has not used are
left, and none are left at a gate. -/
inductive Gets (R : Progress β → α → Prop) (outs : List (Outcome β)) :
    Pause β α → List (Outcome β) → Record → Prop where
  | returned {a : α} {used fed : List (Outcome β)} {record : Record} (hused : outs = used ++ fed)
      (h : R ⟨record.starts.size, used⟩ a) : Gets R outs (.ended (.returned a)) fed record
  | panicked (message : String) {fed : List (Outcome β)} {record : Record} :
      Gets R outs (.ended (.panicked message)) fed record
  | waiting {w : Wait} {next : Wake β w.limit w.gated → Activity β α}
      {used fed : List (Outcome β)} {record : Record} (hused : outs = used ++ fed)
      (hgate : w.gated = true → fed = [])
      (h : ∀ wake, (next wake).Ensures R (Progress.after ⟨record.starts.size, used⟩ wake)) :
      Gets R outs (.waiting w next) fed record

/-- A call that runs in the background gets somewhere. -/
theorem advance (hx : x.Ensures R p) (fed : List (Outcome β)) (s : Scene)
    (hrecord : s.record.starts.size = p.made) :
    Gets R (p.used ++ fed) (x.advance fed s).1 (x.advance fed s).2.1
      (x.advance fed s).2.2.record := by
  induction hx generalizing fed s with
  | @returned p a h =>
    refine .returned rfl ?_
    show R ⟨s.record.starts.size, p.used⟩ a
    rw [hrecord]
    exact h
  | panicked message => exact .panicked message
  | @invoke p next _ ih =>
    have hanswer : (s.perform .invoke).1 = p.made := hrecord
    have hnext : (Activity.act .invoke next).advance fed s =
        (next p.made).advance fed (s.perform .invoke).2 := by
      rw [← hanswer]
      rfl
    rw [hnext]
    exact ih fed _ (by simp [Scene.perform, hrecord])
  | @act p e next he _ ih =>
    have hstarts : (s.perform e).2.record.starts.size = p.made := by
      rw [Scene.starts_perform he]
      exact hrecord
    exact ih _ fed _ hstarts
  | @wait p w next h ih =>
    have hp : p = ⟨s.record.starts.size, p.used⟩ := by rw [hrecord]
    have hwaits : ∀ wake, (next wake).Ensures R
        (Progress.after ⟨s.record.starts.size, p.used⟩ wake) := hp ▸ h
    cases fed with
    | nil => exact .waiting rfl (fun _ => rfl) hwaits
    | cons outcome fed =>
      unfold Activity.advance
      -- A gate uses the outcome; a wait for time leaves it for later.
      split
      · next hgated =>
        have hrest := ih (.opened hgated 0 outcome) fed s hrecord
        rw [List.append_cons]
        exact hrest
      · next hgated => exact .waiting rfl (fun h => absurd h hgated) hwaits

end Ensures

end Activity

/-! ## A call among others -/

section

variable {β ρ : Type} {R : Progress β → ρ → Prop} {outs : List (Outcome β)}

/-- A call that waits and was fed `outs` so far. -/
def Job.Awaits (R : Progress β → ρ → Prop) (outs : List (Outcome β)) (j : Job β ρ) : Prop :=
  ∃ used, outs = used ++ j.fed ∧ (j.pause.gated = true → j.fed = []) ∧
    ∀ wake, (j.next wake).Ensures R (Progress.after ⟨j.record.starts.size, used⟩ wake)

/-- If the call that is reported returned something, it is ensured at the progress that the report
shows; some of the outcomes `outs` that the call was fed were used. -/
def Report.Shows (R : Progress β → ρ → Prop) (outs : List (Outcome β)) (r : Report ρ) : Prop :=
  ∀ a, r.ending = some (.returned a) → ∃ used, used <+: outs ∧ R ⟨r.starts.length, used⟩ a

/-- Outcomes that are fed later do no harm. -/
theorem Report.Shows.mono {r : Report ρ} (h : r.Shows R outs) {more : List (Outcome β)}
    (hmore : outs <+: more) : r.Shows R more := by
  intro a ha
  obtain ⟨used, hused, hR⟩ := h a ha
  exact ⟨used, hused.trans hmore, hR⟩

namespace Floor

variable {f : Floor β ρ} {id : String}

/-- A call in the background that was fed `outs` so far is under way, or was reported. -/
structure Underway (id : String) (R : Progress β → ρ → Prop) (outs : List (Outcome β))
    (f : Floor β ρ) : Prop where
  single : f.jobs.countP (·.id = id) ≤ 1
  awaits : ∀ j ∈ f.jobs, j.id = id → j.Awaits R outs
  shows : ∀ r, (id, r) ∈ f.completed → r.Shows R outs

/-- No call goes by this name, nor did any whose report is still there. -/
structure Unused (id : String) (f : Floor β ρ) : Prop where
  jobs : ∀ j ∈ f.jobs, j.id ≠ id
  completed : ∀ p ∈ f.completed, p.1 ≠ id

namespace Underway

/-- The world does not matter, nor do permits outside of calls. -/
private theorem of_eq (h : Underway id R outs f) {g : Floor β ρ} (hjobs : g.jobs = f.jobs)
    (hcompleted : g.completed = f.completed) : Underway id R outs g :=
  ⟨hjobs ▸ h.single, hjobs ▸ h.awaits, hcompleted ▸ h.shows⟩

/-- Without one of the calls. -/
theorem without (h : Underway id R outs f) {j : Job β ρ} {others : List (Job β ρ)}
    (hperm : f.jobs.Perm (j :: others)) : Underway id R outs { f with jobs := others } := by
  have hcount := hperm.countP_eq (·.id = id)
  have hsingle := h.single
  rw [List.countP_cons] at hcount
  refine ⟨?_, fun k hk => h.awaits k (hperm.mem_iff.2 (List.mem_cons_of_mem _ hk)), h.shows⟩
  show others.countP _ ≤ 1
  omega

/-- Without the call itself no other call has its name. -/
private theorem others_ne (h : Underway id R outs f) {j : Job β ρ} {others : List (Job β ρ)}
    (hperm : f.jobs.Perm (j :: others)) (hid : j.id = id) : ∀ k ∈ others, k.id ≠ id := by
  have hcount := hperm.countP_eq (·.id = id)
  have hsingle := h.single
  rw [List.countP_cons_of_pos (by simpa using hid)] at hcount
  have hzero : others.countP (·.id = id) = 0 := by omega
  intro k hk
  simpa using List.countP_eq_zero.1 hzero k hk

/-- A call that ends is reported. -/
theorem complete (h : Underway id R outs f) {id' : String} {report : Report ρ}
    (hreport : id' = id → report.Shows R outs) : Underway id R outs (f.complete id' report) := by
  refine ⟨h.single, h.awaits, fun r hr => ?_⟩
  rcases List.mem_append.1 hr with hr | hr
  · exact h.shows r hr
  · obtain ⟨rfl, rfl⟩ : id = id' ∧ r = report := by simpa using hr
    exact hreport rfl

/-- The call goes on. -/
theorem advance (h : Underway id R outs f) (hnone : ∀ j ∈ f.jobs, j.id ≠ id)
    {outs' : List (Outcome β)} (houts : outs <+: outs') {began : Nat} {record : Record}
    {fed : List (Outcome β)} {x : Activity β ρ}
    (hgets : Activity.Ensures.Gets R outs' (x.advance fed ⟨f.world, record⟩).1
      (x.advance fed ⟨f.world, record⟩).2.1 (x.advance fed ⟨f.world, record⟩).2.2.record) :
    Underway id R outs' (f.advance id began record fed x) := by
  have hbefore : Underway id R outs' f :=
    ⟨h.single, fun j hj hid => absurd hid (hnone j hj), fun r hr => (h.shows r hr).mono houts⟩
  unfold Floor.advance
  generalize x.advance fed ⟨f.world, record⟩ = result at hgets ⊢
  obtain ⟨pause, fed', s⟩ := result
  have hworld : Underway id R outs' { f with world := s.world } := hbefore.of_eq rfl rfl
  dsimp only at hgets ⊢
  -- It ends, and is reported, or it waits again under its name.
  cases hgets with
  | @returned a used' _ _ hused hR =>
    refine hworld.complete fun _ a' ha' => ⟨used', ⟨fed', hused.symm⟩, ?_⟩
    obtain rfl : a = a' := by simpa [Record.report] using ha'
    simpa [Record.report] using hR
  | panicked message =>
    refine hworld.complete fun _ a' ha' => ?_
    simp [Record.report] at ha'
  | @waiting w next used' _ _ hused hgate hnext =>
    have hzero : f.jobs.countP (·.id = id) = 0 := List.countP_eq_zero.2 (by simpa using hnone)
    refine ⟨?_, fun j hj hid => ?_, hbefore.shows⟩
    · show (f.jobs ++ [_]).countP _ ≤ 1
      simp [hzero]
    · rcases List.mem_append.1 hj with hj | hj
      · exact absurd hid (hnone j hj)
      · obtain rfl := List.mem_singleton.1 hj
        exact ⟨used', hused, hgate, hnext⟩

/-- Another call goes on. -/
private theorem advance_of_ne (h : Underway id R outs f) {id' : String} (hne : id' ≠ id)
    (began : Nat) (record : Record) (fed : List (Outcome β)) (x : Activity β ρ) :
    Underway id R outs (f.advance id' began record fed x) := by
  unfold Floor.advance
  generalize x.advance fed ⟨f.world, record⟩ = result
  obtain ⟨pause, fed', s⟩ := result
  have hworld : Underway id R outs { f with world := s.world } := h.of_eq rfl rfl
  -- The other call ends, or waits under its own name.
  cases pause with
  | ended ending => exact hworld.complete fun heq => absurd heq hne
  | waiting w next =>
    refine ⟨?_, fun j hj hid => ?_, h.shows⟩
    · show (f.jobs ++ [_]).countP _ ≤ 1
      simpa [hne] using h.single
    · rcases List.mem_append.1 hj with hj | hj
      · exact h.awaits j hj hid
      · obtain rfl := List.mem_singleton.1 hj
        exact absurd hid hne

end Underway

/-- Time uses no outcome. -/
private theorem kept_underway : KeptInTime (Underway (β := β) id R outs) where
  atTime _ _ h := h.of_eq rfl rfl
  elapsed f j others h hperm ms hms := by
    by_cases hid : j.id = id
    · obtain ⟨used, rfl, -, hnext⟩ := h.awaits j (hperm.mem_iff.2 List.mem_cons_self) hid
      have hgets := (hnext (.elapsed ms hms)).advance j.fed ⟨f.world, j.record⟩ rfl
      show Underway id R _ (Floor.advance _ j.id j.began j.record j.fed _)
      rw [hid]
      exact (h.without hperm).advance (h.others_ne hperm hid) List.prefix_rfl hgets
    · exact (h.without hperm).advance_of_ne hid ..

/-- The outcome that is fed to a call. -/
def Use.fed? (id : String) : Use β ρ → Option (Outcome β)
  | .step (.feed id' outcome) => if id' = id then some outcome else none
  | _ => none

/-- The outcomes that are fed to a call, one after another. -/
def fedTo (id : String) (l : List (Use β ρ)) : List (Outcome β) := l.filterMap (Use.fed? id)

/-- A call that keeps an outcome for later keeps its name. -/
private theorem countP_map_fed (jobs : List (Job β ρ)) (id id' : String) (outcome : Outcome β) :
    (jobs.map fun k => if k.id = id' then { k with fed := k.fed ++ [outcome] } else k).countP
      (·.id = id) = jobs.countP (·.id = id) := by
  rw [List.countP_map]
  refine List.countP_congr fun k _ => ?_
  by_cases hk : k.id = id' <;> simp [hk]

namespace Underway

/-- The call is fed an outcome, which opens its gate or is kept for later. -/
theorem feed (h : Underway id R outs f) (outcome : Outcome β) :
    Underway id R (outs ++ [outcome]) ((f.feed? id outcome).getD f) := by
  have hprefix : outs <+: outs ++ [outcome] := List.prefix_append _ _
  unfold Floor.feed?
  cases htake : takeJob id f.jobs with
  | none =>
    have hnone := takeJob_eq_none htake
    exact ⟨h.single, fun j hj hid => absurd hid (hnone j hj),
      fun r hr => (h.shows r hr).mono hprefix⟩
  | some p =>
    obtain ⟨j, others⟩ := p
    have hperm := takeJob_perm htake
    have hid : j.id = id := id_takeJob htake
    dsimp only [Option.bind_eq_bind, Option.bind_some]
    split
    -- The call waits at a gate, which the outcome opens.
    · next hgated =>
      obtain ⟨used, hused, hfed, hnext⟩ := h.awaits j (hperm.mem_iff.2 List.mem_cons_self) hid
      rw [hfed hgated, List.append_nil] at hused
      subst hused
      have hgets := (hnext (.opened hgated (f.world.now - j.since) outcome)).advance j.fed
        ⟨f.world, j.record⟩ rfl
      have houts : (Progress.after ⟨j.record.starts.size, outs⟩ (.opened hgated
          (f.world.now - j.since) outcome : Wake β j.pause.limit _)).used ++ j.fed =
            outs ++ [outcome] := by
        rw [hfed hgated, List.append_nil]
        rfl
      rw [houts] at hgets
      show Underway id R _ (Floor.advance _ j.id j.began j.record j.fed _)
      rw [hid]
      exact (h.without hperm).advance (h.others_ne hperm hid) hprefix hgets
    · next hgated =>
      refine ⟨?_, fun k hk hkid => ?_, fun r hr => (h.shows r hr).mono hprefix⟩
      · show (f.jobs.map _).countP _ ≤ 1
        rw [countP_map_fed]
        exact h.single
      · obtain ⟨k', hk', rfl⟩ := List.mem_map.1 hk
        have hk'id : k'.id = id := by
          by_contra hne
          rw [if_neg hne] at hkid
          exact hne hkid
        -- No other call has the name, so this is the one that does not wait at a gate.
        obtain rfl : k' = j := (List.mem_cons.1 (hperm.mem_iff.1 hk')).resolve_right
          fun hk' => h.others_ne hperm hid k' hk' hk'id
        obtain ⟨used, hused, -, hnext⟩ := h.awaits k' (hperm.mem_iff.2 List.mem_cons_self) hid
        rw [if_pos hid]
        exact ⟨used, by rw [hused, List.append_assoc], fun hgate => absurd hgate hgated, hnext⟩

/-- Another call is fed an outcome. -/
private theorem feed_of_ne (h : Underway id R outs f) {id' : String} (hne : id' ≠ id)
    (outcome : Outcome β) : Underway id R outs ((f.feed? id' outcome).getD f) := by
  unfold Floor.feed?
  cases htake : takeJob id' f.jobs with
  | none => exact h
  | some p =>
    obtain ⟨j, others⟩ := p
    have hid : j.id = id' := id_takeJob htake
    dsimp only [Option.bind_eq_bind, Option.bind_some]
    -- The outcome opens the gate at which the other call waits, or is kept for later.
    split
    · exact (h.without (takeJob_perm htake)).advance_of_ne (hid ▸ hne) ..
    · refine ⟨?_, fun k hk hkid => ?_, h.shows⟩
      · show (f.jobs.map _).countP _ ≤ 1
        rw [countP_map_fed]
        exact h.single
      · obtain ⟨k', hk', rfl⟩ := List.mem_map.1 hk
        by_cases hother : k'.id = id'
        · rw [if_pos hother] at hkid
          exact absurd (hother.symm.trans hkid) hne
        · rw [if_neg hother] at hkid ⊢
          exact h.awaits k' hk' hkid

/-- A call is dropped. -/
theorem dropped (h : Underway id R outs f) (id' : String) :
    Underway id R outs ((f.drop? id').getD f) := by
  unfold Floor.drop?
  cases htake : takeJob id' f.jobs with
  | none => exact h
  | some p =>
    obtain ⟨j, others⟩ := p
    have hrest := h.without (takeJob_perm htake)
    -- To give back what the call holds touches no report and no other call.
    have hworld : Underway id R outs
        { f with world := j.pause.leaves.foldl World.leave f.world, jobs := others } :=
      hrest.of_eq rfl rfl
    exact hworld.complete fun _ a ha => by simp [Record.report] at ha

/-- One thing is done, other than making a call of the same name. -/
theorem use (h : Underway id R outs f) {u : Use β ρ} (hu : ∀ x, u ≠ .step (.start id x)) :
    Underway id R (outs ++ (u.fed? id).toList) (f.use u) := by
  -- Only what is fed to the call itself matters.
  have unfed {g : Floor β ρ} (hnone : u.fed? id = none) (hg : Underway id R outs g) :
      Underway id R (outs ++ (u.fed? id).toList) g := by
    rw [hnone, Option.toList_none, List.append_nil]
    exact hg
  cases u with
  | step s =>
    cases s with
    | start id' x => exact unfed rfl (h.advance_of_ne (fun heq => hu x (by rw [heq])) ..)
    | feed id' outcome =>
      by_cases hid : id' = id
      · subst hid
        have hfed : Use.fed? id' (.step (.feed id' outcome) : Use β ρ) = some outcome :=
          if_pos rfl
        rw [hfed]
        exact h.feed outcome
      · exact unfed (by simp [Use.fed?, hid]) (h.feed_of_ne hid outcome)
    | drop id' => exact unfed rfl (h.dropped id')
    | sleep d => exact unfed rfl (kept_underway.runUntil _ h)
    | advance span =>
      refine unfed rfl ?_
      simp only [Floor.use, Floor.step]
      split
      · exact h.of_eq rfl rfl
      · exact h
    | hold holder i =>
      obtain ⟨w, permits, heq⟩ := hold_eq f holder i
      refine unfed rfl ?_
      simp only [Floor.use, Floor.step, heq]
      exact h.of_eq rfl rfl
    | giveBack holder =>
      obtain ⟨w, permits, heq⟩ := giveBack_eq f holder
      refine unfed rfl ?_
      simp only [Floor.use, Floor.step, heq]
      exact h.of_eq rfl rfl
  | call x => exact unfed rfl (kept_underway.call (fun _ _ h => h.of_eq rfl rfl) h x)
  | collect => exact unfed rfl ⟨h.single, h.awaits, fun _ hr => absurd hr List.not_mem_nil⟩
  | outside | addBreaker | addBulkhead | resetKey | resetAll | clear =>
    exact unfed rfl (h.of_eq rfl rfl)

/-- One thing is done after another. -/
theorem uses (h : Underway id R outs f) {l : List (Use β ρ)}
    (hl : ∀ u ∈ l, ∀ x, u ≠ .step (.start id x)) :
    Underway id R (outs ++ fedTo id l) (f.uses l) := by
  -- Induction on what is done; the outcomes fed so far grow on the way.
  induction l generalizing f outs with
  | nil => simpa [fedTo, Floor.uses] using h
  | cons u l ih =>
    have hrest := ih (h.use (hl u List.mem_cons_self)) fun v hv =>
      hl v (List.mem_cons_of_mem _ hv)
    rw [List.append_assoc] at hrest
    have hfed : fedTo id (u :: l) = (u.fed? id).toList ++ fedTo id l := by
      cases hu : u.fed? id <;> simp [fedTo, hu]
    rw [hfed]
    exact hrest

end Underway

/-- A call in the background under a new name: whatever is done after it was made, its report shows
what the call ensures. -/
theorem shows_of_ensures {x y : Activity β ρ} {s : Scene} (hunused : f.Unused id)
    (hreaches : x.Reaches ⟨f.world, .empty⟩ y s) (hrecord : s.record = .empty)
    (hy : y.Ensures R ⟨0, []⟩) {l : List (Use β ρ)}
    (hl : ∀ u ∈ l, ∀ x, u ≠ .step (.start id x)) {r : Report ρ}
    (hr : (id, r) ∈ ((f.start id x).uses l).completed) : r.Shows R (fedTo id l) := by
  have hzero : f.jobs.countP (·.id = id) = 0 := List.countP_eq_zero.2 (by simpa using hunused.jobs)
  have hbefore : Underway id R [] f :=
    ⟨by omega, fun j hj hid => absurd hid (hunused.jobs j hj),
      fun r hr => absurd rfl (hunused.completed (id, r) hr)⟩
  -- The invariant holds once the call has made its first steps, and every later use keeps it.
  have hstart : Underway id R [] (f.start id x) := by
    refine hbefore.advance hunused.jobs List.prefix_rfl ?_
    rw [hreaches.advance_eq]
    exact hy.advance [] s (by rw [hrecord]; rfl)
  simpa using (hstart.uses hl).shows r hr

end Floor

end

end Safeguard
