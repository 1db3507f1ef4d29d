import Safeguard.Proofs.ActivityAgreement

/-!
# Calls in the background that come to the same

Two calls that agree tree against tree are made in the background of two floors, and then the same
is done on both. The other calls there need have nothing in common, so one floor may have many more
timers than the other. But a call goes on when its own wait ends and at no other time, and what it
does then agrees with what its counterpart does: the two keep in step (`Floor.Mirrors`), and in the
end they are reported alike.

## Key results

- `Agrees.advance`: two calls that go as far as they can
- `Mirrors.runUntil`: time passes on both floors
- `Mirrors.run`: the same history on both floors
-/

namespace Safeguard

variable {β ρ : Type} {seen : Signal → Bool}

/-! ## Going on alike -/

/-- Two calls have come equally far, and go on to the same after a wait. -/
inductive Pause.Alike (seen : Signal → Bool) (made : Nat) : Pause β ρ → Pause β ρ → Prop where
  | ended (ending : Ending ρ) : Alike seen made (.ended ending) (.ended ending)
  | waiting {w : Wait} {leaves : List Nat} {next next' : Wake β w.limit w.gated → Activity β ρ}
      (h : ∀ wake, (next wake).Agrees seen (fun _ => Eq) made (next' wake)) :
      Alike seen made (.waiting w next) (.waiting { w with leaves } next')

/-- Two calls that went on by themselves have come equally far, have as many outcomes left and have
made the same attempts. -/
structure GoneAlike (seen : Signal → Bool) (p p' : Pause β ρ × List (Outcome β) × Scene) :
    Prop where
  pause : p.1.Alike seen p.2.2.record.starts.size p'.1
  fed : p.2.1 = p'.2.1
  scene : p.2.2.Abreast p'.2.2

namespace Activity

variable {x y : Activity β ρ} {s s' : Scene}

/-- Two calls that agree go equally far. -/
theorem Agrees.advance {n : Nat} (h : x.Agrees seen (fun _ => Eq) n y)
    (hn : s.record.starts.size = n) (hs : s.Abreast s') (fed : List (Outcome β)) :
    GoneAlike seen (x.advance fed s) (y.advance fed s') := by
  -- Neither scene is fixed: an effect of the one alone moves only its own scene.
  induction h generalizing fed s s' with
  | returned h => exact ⟨h ▸ .ended _, rfl, hs⟩
  | panicked message => exact ⟨.ended _, rfl, hs⟩
  | @invoke n next next' _ ih =>
    obtain ⟨hanswer, hafter⟩ := hs.plain (e := .invoke) trivial
    have hfirst : (s.perform .invoke).1 = n := hn
    have hx : (Activity.act .invoke next).advance fed s =
        (next n).advance fed (s.perform .invoke).2 := by
      rw [← hfirst]
      rfl
    have hy : (Activity.act .invoke next').advance fed s' =
        (next' n).advance fed (s'.perform .invoke).2 := by
      rw [← hfirst, hanswer]
      rfl
    rw [hx, hy]
    exact ih (by simp [Scene.perform, hn]) hafter fed
  | @act n e next next' he hinvoke _ ih =>
    obtain ⟨hanswer, hafter⟩ := hs.plain he
    have hsize : (s.perform e).2.record.starts.size = n := by
      rw [Scene.starts_perform hinvoke]
      exact hn
    have hy : (Activity.act e next').advance fed s' =
        (next' (s.perform e).1).advance fed (s'.perform e).2 := by
      rw [hanswer]
      rfl
    rw [hy]
    exact ih _ hsize hafter fed
  | left he _ ih =>
    exact ih _ ((congrArg (·.starts.size) (Scene.record_perform_of_hidden he s)).trans hn)
      (hs.left he) fed
  | right he _ ih => exact ih _ hn (hs.right he) fed
  | @wait n w leaves next next' h ih =>
    cases fed with
    | nil => exact ⟨.waiting (hn ▸ h), rfl, hs⟩
    | cons outcome fed =>
      unfold Activity.advance
      split
      · next hgated => exact ih (.opened hgated 0 outcome) hn hs fed
      · exact ⟨.waiting (hn ▸ h), rfl, hs⟩

/-- Two calls that come to the same go equally far. -/
theorem ComesTo.advance (h : x.ComesTo seen s y) (hs : s.Abreast s') (fed : List (Outcome β)) :
    GoneAlike seen (x.advance fed s) (y.advance fed s') := by
  obtain ⟨z, s'', hz, hagrees⟩ := h
  rw [hz.reaches.advance_eq]
  refine hagrees.advance (congrArg (·.starts.size) hz.abreast.record) ?_ fed
  exact ⟨hz.abreast.record.trans hs.record, hz.abreast.now.trans hs.now⟩

/-- A call that goes on by itself takes no time. -/
theorem now_advance (x : Activity β ρ) (fed : List (Outcome β)) (s : Scene) :
    (x.advance fed s).2.2.world.now = s.world.now := by
  induction x generalizing fed s with
  | ended ending => rfl
  | act e next ih => exact (ih _ fed _).trans (Scene.now_perform s e)
  | wait w next ih =>
    -- A wait goes on only as long as something has been fed ahead.
    cases fed with
    | nil => rfl
    | cons outcome fed =>
      unfold Activity.advance
      split
      · exact ih _ fed s
      · rfl

end Activity

/-! ## The calls of a name -/

/-- Two calls that wait have come equally far, and go on to the same. -/
inductive Job.Alike (seen : Signal → Bool) : Job β ρ → Job β ρ → Prop where
  | intro {id : String} {began since : Nat} {record : Record} {fed : List (Outcome β)} {w : Wait}
      {leaves : List Nat} {next next' : Wake β w.limit w.gated → Activity β ρ}
      (h : ∀ wake, (next wake).Agrees seen (fun _ => Eq) record.starts.size (next' wake)) :
      Alike seen ⟨id, began, since, record, fed, w, next⟩
        ⟨id, began, since, record, fed, { w with leaves }, next'⟩

/-- Calls that are alike are due at the same time. -/
private theorem Job.Alike.due_eq {j j' : Job β ρ} (h : j.Alike seen j') : j.due = j'.due := by
  cases h
  rfl

/-- Nothing is due if no call is taken. -/
theorem Job.takeDue_eq_none {t : Nat} {jobs : List (Job β ρ)} (h : takeDue t jobs = none) :
    ∀ j ∈ jobs, ∀ d, j.due = some d → t < d := by
  -- By induction on the jobs. The first one is left because it never ends by itself, or ends later.
  induction jobs with
  | nil => nofun
  | cons j js ih =>
    simp only [takeDue] at h
    split at h
    · next hnone hdue => exact List.forall_mem_cons.2 ⟨by simp [hdue], ih hnone⟩
    · next d hnone hdue =>
      split at h
      · cases h
      · next hlate =>
        refine List.forall_mem_cons.2 ⟨fun d' hd' => ?_, ih hnone⟩
        obtain rfl : d = d' := Option.some.inj (hdue.symm.trans hd')
        omega
    · cases h
    · split at h <;> cases h

/-- Lists with one entry at most are equal if they have the same entries. -/
private theorem eq_of_perm_of_length_le_one {α : Type} {l l' : List α} (h : l.Perm l')
    (hl : l'.length ≤ 1) : l = l' := by
  match l', hl with
  | [], _ => exact h.eq_nil
  | [a], _ => exact List.perm_singleton.1 h

namespace Floor

variable {f g : Floor β ρ} {id : String}

/-- The calls of a name that wait, and the reports on those that ended. -/
def own (id : String) (f : Floor β ρ) : List (Job β ρ) × List (String × Report ρ) :=
  (f.jobs.filter (·.id = id), f.completed.filter (·.1 = id))

/-- The report on another call is not one of its own. -/
private theorem own_complete_of_ne {id' : String} (hne : id' ≠ id) (report : Report ρ) :
    (f.complete id' report).own id = f.own id := by
  simp [own, complete, hne]

/-- Another call goes on. -/
private theorem own_advance_of_ne {id' : String} (hne : id' ≠ id) (began : Nat) (record : Record)
    (fed : List (Outcome β)) (x : Activity β ρ) :
    (f.advance id' began record fed x).own id = f.own id := by
  unfold advance
  split
  · exact own_complete_of_ne hne _
  · simp [own, hne]

/-- Without another call. -/
private theorem own_without_of_ne (hsingle : (f.own id).1.length ≤ 1) {j : Job β ρ}
    {others : List (Job β ρ)} (hperm : f.jobs.Perm (j :: others)) (hne : j.id ≠ id) :
    ({ f with jobs := others } : Floor β ρ).own id = f.own id := by
  have hfilter := hperm.filter (·.id = id)
  rw [List.filter_cons_of_neg (by simpa using hne)] at hfilter
  have hjobs := eq_of_perm_of_length_le_one hfilter.symm hsingle
  simp only [own, hjobs]

/-- Without the call itself none of the name is left. -/
private theorem own_without_of_eq (hsingle : (f.own id).1.length ≤ 1) {j : Job β ρ}
    {others : List (Job β ρ)} (hperm : f.jobs.Perm (j :: others)) (hid : j.id = id) :
    (f.own id).1 = [j] ∧
      ({ f with jobs := others } : Floor β ρ).own id = ([], (f.own id).2) := by
  have hfilter := hperm.filter (·.id = id)
  rw [List.filter_cons_of_pos (by simpa using hid)] at hfilter
  have hjobs : f.jobs.filter (·.id = id) = j :: others.filter (·.id = id) :=
    (eq_of_perm_of_length_le_one hfilter.symm hsingle).symm
  have hnone : others.filter (·.id = id) = [] := by
    simpa [own, hjobs] using hsingle
  exact ⟨hjobs.trans (by rw [hnone]), by simp only [own, hnone]⟩

/-- A timer goes off: its time has come, and the call goes on. -/
theorem fire_eq {j : Job β ρ} {ms : Nat} (h : j.pause.limit = some ms) (f : Floor β ρ) :
    f.fire j = (f.atTime (j.since + ms)).wake j (.elapsed ms h) := by
  unfold fire
  split
  · next ms' h' =>
    obtain rfl : ms = ms' := Option.some.inj (h.symm.trans h')
    rfl
  · next h' => simp [h] at h'

/-- The timer of another call goes off. -/
private theorem own_fire_of_ne {j : Job β ρ} (hne : j.id ≠ id) : (f.fire j).own id = f.own id := by
  unfold fire
  split
  · exact own_advance_of_ne hne ..
  · rfl

/-- While time passes, a call waits on as long as it is not due. If it comes to be due, it goes on
when the timers before it have gone off. -/
private theorem runUntil_own (hsingle : (f.own id).1.length ≤ 1) (t : Nat) :
    ((f.runUntil t).own id = f.own id ∧
      ∀ j ∈ (f.own id).1, ∀ d, j.due = some d → t < d) ∨
    ∃ (g : Floor β ρ) (j : Job β ρ), (f.own id).1 = [j] ∧ (∃ d, j.due = some d ∧ d ≤ t) ∧
      g.own id = ([], (f.own id).2) ∧ f.runUntil t = (g.fire j).runUntil t := by
  fun_induction runUntil t f with
  | case1 f hnone =>
    exact .inl ⟨rfl, fun j hj => Job.takeDue_eq_none hnone j (List.mem_filter.1 hj).1⟩
  | case2 f j others hdue ih =>
    have hperm := Job.takeDue_perm hdue
    by_cases hid : j.id = id
    · obtain ⟨hown, hrest⟩ := own_without_of_eq hsingle hperm hid
      exact .inr ⟨_, j, hown, (Job.takeDue_spec hdue).1, hrest, rfl⟩
    · -- Another's timer goes off first, and the call waits as before.
      have hown : (({ f with jobs := others } : Floor β ρ).fire j).own id = f.own id :=
        (own_fire_of_ne hid).trans (own_without_of_ne hsingle hperm hid)
      simpa only [hown] using ih (hown ▸ hsingle)

/-! ## Two floors -/

/-- The calls of a name on two floors: none, or one on each. -/
inductive Paired (seen : Signal → Bool) : List (Job β ρ) → List (Job β ρ) → Prop where
  | none : Paired seen [] []
  | one {j j' : Job β ρ} (h : j.Alike seen j') : Paired seen [j] [j']

/-- There is one call on each side, or none. -/
theorem Paired.single {l l' : List (Job β ρ)} (h : Paired seen l l') :
    l.length ≤ 1 ∧ l'.length ≤ 1 := by
  cases h <;> exact ⟨by simp, by simp⟩

/-- A call of the same name is under way on two floors and has come equally far, or it has ended on
both and is reported alike. -/
structure Mirrors (seen : Signal → Bool) (id : String) (f g : Floor β ρ) : Prop where
  jobs : Paired seen (f.own id).1 (g.own id).1
  completed : (f.own id).2 = (g.own id).2

namespace Mirrors

/-- Only the calls and the reports of the name matter. -/
theorem congr (h : Mirrors seen id f g) {f' g' : Floor β ρ} (hf : f'.own id = f.own id)
    (hg : g'.own id = g.own id) : Mirrors seen id f' g' :=
  ⟨hf ▸ hg ▸ h.jobs, hf ▸ hg ▸ h.completed⟩

/-- No two calls of the name are under way. -/
theorem single (h : Mirrors seen id f g) :
    (f.own id).1.length ≤ 1 ∧ (g.own id).1.length ≤ 1 :=
  h.jobs.single

/-- The call is reported, on both floors. -/
theorem complete {reports : List (String × Report ρ)} (hf : f.own id = ([], reports))
    (hg : g.own id = ([], reports)) (report : Report ρ) :
    Mirrors seen id (f.complete id report) (g.complete id report) := by
  obtain ⟨hfjobs, hfreports⟩ := Prod.mk.inj hf
  obtain ⟨hgjobs, hgreports⟩ := Prod.mk.inj hg
  refine ⟨?_, ?_⟩
  · simpa [own, Floor.complete, hfjobs, hgjobs] using Paired.none
  · simp [own, Floor.complete, hfreports, hgreports]

/-- The call goes on, on both floors. -/
theorem advance {reports : List (String × Report ρ)} (hf : f.own id = ([], reports))
    (hg : g.own id = ([], reports)) (hnow : f.world.now = g.world.now) (began : Nat)
    {record : Record} {fed : List (Outcome β)} {x y : Activity β ρ}
    (h : GoneAlike seen (x.advance fed ⟨f.world, record⟩) (y.advance fed ⟨g.world, record⟩)) :
    Mirrors seen id (f.advance id began record fed x) (g.advance id began record fed y) := by
  unfold Floor.advance
  generalize x.advance fed ⟨f.world, record⟩ = p at h
  generalize y.advance fed ⟨g.world, record⟩ = p' at h
  obtain ⟨pause, left, s⟩ := p
  obtain ⟨pause', left', s'⟩ := p'
  obtain ⟨hpause, rfl, ⟨hrecord, hnow'⟩⟩ := h
  dsimp only at hpause hrecord hnow'
  -- Both have ended in the same way, or both wait and go on in the same way.
  cases hpause with
  | ended ending =>
    dsimp only
    rw [hrecord, hnow']
    exact complete (f := { f with world := s.world }) (g := { g with world := s'.world }) hf hg _
  | waiting hnext =>
    obtain ⟨hfjobs, hfreports⟩ := Prod.mk.inj hf
    obtain ⟨hgjobs, hgreports⟩ := Prod.mk.inj hg
    refine ⟨?_, ?_⟩
    · simp only [own, List.filter_append, hfjobs, hgjobs, List.nil_append]
      simp only [List.filter_cons, decide_true, if_true, List.filter_nil]
      rw [← hrecord, ← hnow]
      exact .one (.intro hnext)
    · simp [own, hfreports, hgreports]

/-- The call goes on after its time has passed, on both floors. -/
theorem fire {reports : List (String × Report ρ)} (hf : f.own id = ([], reports))
    (hg : g.own id = ([], reports)) {j j' : Job β ρ} (h : j.Alike seen j') (hid : j.id = id)
    {d : Nat} (hdue : j.due = some d) : Mirrors seen id (f.fire j) (g.fire j') := by
  subst hid
  cases h with
  | @intro id began since record fed w leaves next next' hnext =>
    obtain ⟨ms, hms, rfl⟩ := Option.map_eq_some_iff.1 hdue
    rw [fire_eq hms, fire_eq (j := ⟨id, began, since, record, fed, { w with leaves }, next'⟩) hms]
    -- Both calls go on at the time at which their waits were over.
    have hscenes : Scene.Abreast ⟨(f.atTime (since + ms)).world, record⟩
        ⟨(g.atTime (since + ms)).world, record⟩ := ⟨rfl, rfl⟩
    exact advance (f := f.atTime (since + ms)) (g := g.atTime (since + ms)) hf hg rfl began
      ((hnext (.elapsed ms hms)).advance rfl hscenes fed)

/-- Time passes on both floors. -/
theorem runUntil (h : Mirrors seen id f g) (t : Nat) :
    Mirrors seen id (f.runUntil t) (g.runUntil t) := by
  -- Induction on what is due on the first floor; the second one is free, as its timers are others.
  fun_induction Floor.runUntil t f generalizing g with
  | case1 f hnone =>
    rcases runUntil_own h.single.2 t with ⟨hsame, -⟩ | ⟨g', j', hown, ⟨d, hd, hle⟩, -, -⟩
    · exact h.congr rfl hsame
    · -- Nothing is due on the one floor, and so the call is not due on the other.
      have hjobs := h.jobs
      rw [hown] at hjobs
      generalize hj : (f.own id).1 = jobs at hjobs
      cases hjobs with
      | @one j j' halike =>
      have hmem : j ∈ (f.own id).1 := hj ▸ List.mem_singleton_self j
      have hearly := Job.takeDue_eq_none hnone j (List.mem_filter.1 hmem).1
      have hlt := hearly d (halike.due_eq.trans hd)
      omega
  | case2 f j others hdue ih =>
    have hperm := Job.takeDue_perm hdue
    -- Either the call itself is due, and then so is its partner, or another call is.
    by_cases hid : j.id = id
    · obtain ⟨hown, hrest⟩ := own_without_of_eq h.single.1 hperm hid
      obtain ⟨d, hd, hle⟩ := (Job.takeDue_spec hdue).1
      have hjobs := h.jobs
      rw [hown] at hjobs
      generalize hj' : (g.own id).1 = jobs at hjobs
      cases hjobs with
      | @one j j' halike =>
      rcases runUntil_own h.single.2 t with ⟨-, hlate⟩ | ⟨g', k, hk, -, hg', heq⟩
      · have hlt := hlate j' (hj' ▸ List.mem_singleton_self j') d (halike.due_eq.symm.trans hd)
        omega
      · obtain rfl : j' = k := List.singleton_inj.1 (hj'.symm.trans hk)
        rw [heq]
        exact ih (fire (h.completed ▸ hrest) hg' halike hid hd)
    · exact ih (h.congr ((own_fire_of_ne hid).trans (own_without_of_ne h.single.1 hperm hid)) rfl)

end Mirrors

/-! ## The same history on both floors -/

/-- The call of a name is taken from the calls that wait, if it is among them. -/
private theorem takeJob_own (hsingle : (f.own id).1.length ≤ 1) :
    takeJob id f.jobs = none ∧ (f.own id).1 = [] ∨
    ∃ j others, takeJob id f.jobs = some (j, others) ∧ j.id = id ∧ (f.own id).1 = [j] ∧
      ({ f with jobs := others } : Floor β ρ).own id = ([], (f.own id).2) := by
  -- There is at most one call of the name, so taking it leaves none.
  cases htake : takeJob id f.jobs with
  | none =>
    refine .inl ⟨rfl, List.filter_eq_nil_iff.2 fun j hj => ?_⟩
    simpa using takeJob_eq_none htake j hj
  | some p =>
    have hid := id_takeJob htake
    exact .inr ⟨p.1, p.2, rfl, hid, own_without_of_eq hsingle (takeJob_perm htake) hid⟩

/-- An outcome is kept for later by the calls of its name. -/
private theorem filter_map_fed (jobs : List (Job β ρ)) (id id' : String) (outcome : Outcome β) :
    (jobs.map fun k => if k.id = id' then { k with fed := k.fed ++ [outcome] } else k).filter
      (·.id = id) = if id = id' then
        (jobs.filter (·.id = id)).map fun k => { k with fed := k.fed ++ [outcome] }
      else jobs.filter (·.id = id) := by
  -- Being fed does not change the name of a call, so the two filters commute.
  by_cases hid : id = id'
  · subst hid
    rw [if_pos rfl]
    induction jobs with
    | nil => rfl
    | cons k ks ih => by_cases hk : k.id = id <;> simpa [hk] using ih
  · rw [if_neg hid]
    induction jobs with
    | nil => rfl
    | cons k ks ih =>
      by_cases hk : k.id = id'
      · simpa [hk, Ne.symm hid] using ih
      · by_cases hk' : k.id = id
        · simpa [hk', hid] using ih
        · simpa [hk, hk'] using ih

/-- Another call is fed an outcome. -/
private theorem own_feed_of_ne (hsingle : (f.own id).1.length ≤ 1) {id' : String} (hne : id' ≠ id)
    (outcome : Outcome β) : ((f.feed? id' outcome).getD f).own id = f.own id := by
  unfold feed?
  cases htake : takeJob id' f.jobs with
  | none => rfl
  | some p =>
    obtain ⟨j, others⟩ := p
    have hid : j.id = id' := id_takeJob htake
    dsimp only [Option.bind_eq_bind, Option.bind_some]
    -- A call at a gate goes on with the outcome, any other one keeps it.
    split
    · exact (own_advance_of_ne (hid ▸ hne) ..).trans
        (own_without_of_ne hsingle (takeJob_perm htake) (hid ▸ hne))
    · simp only [own, Option.getD_some, filter_map_fed, if_neg hne.symm]

/-- Another call is dropped. -/
private theorem own_drop_of_ne (hsingle : (f.own id).1.length ≤ 1) {id' : String} (hne : id' ≠ id) :
    ((f.drop? id').getD f).own id = f.own id := by
  unfold drop?
  cases htake : takeJob id' f.jobs with
  | none => rfl
  | some p =>
    have hid : p.1.id ≠ id := id_takeJob htake ▸ hne
    exact (own_complete_of_ne hne _).trans (own_without_of_ne hsingle (takeJob_perm htake) hid)

/-! ### The time on a floor -/

/-- A floor that is run until a time is at that time. -/
theorem now_runUntil (t : Nat) (f : Floor β ρ) : (f.runUntil t).world.now = t := by
  fun_induction runUntil t f with
  | case1 => rfl
  | case2 _ _ _ _ ih => exact ih

theorem now_advance (f : Floor β ρ) (id : String) (began : Nat) (record : Record)
    (fed : List (Outcome β)) (x : Activity β ρ) :
    (f.advance id began record fed x).world.now = f.world.now := by
  have hnow := x.now_advance fed ⟨f.world, record⟩
  unfold advance
  generalize x.advance fed ⟨f.world, record⟩ = p at hnow ⊢
  obtain ⟨pause, left, s⟩ := p
  cases pause <;> exact hnow

/-- To give a permit back takes no time. -/
private theorem now_giveBack (f : Floor β ρ) (holder : String) :
    (f.giveBack holder).2.world.now = f.world.now := by
  unfold giveBack
  split
  · rfl
  · exact World.now_stepBulkhead _ _

/-- To take a permit takes no time. -/
private theorem now_hold (f : Floor β ρ) (holder : String) (i : Nat) :
    (f.hold holder i).2.world.now = f.world.now := by
  have hentered : (f.world.enter i).2.now = f.world.now := World.now_enter
  unfold hold
  split
  · next heq => rw [← hentered, heq]
  · next w heq =>
    exact (now_giveBack ({ f with world := w } : Floor β ρ) holder).trans (by rw [← hentered, heq])

/-- To give many permits back takes no time. -/
theorem now_leaves (l : List Nat) (w : World) : (l.foldl World.leave w).now = w.now := by
  induction l generalizing w with
  | nil => rfl
  | cons i l ih => exact (ih _).trans (World.now_stepBulkhead _ _)

/-- A step takes no time, unless it lets time pass. -/
theorem now_step (f : Floor β ρ) {s : Step β ρ} (hs : ∀ d, s ≠ .sleep d) :
    (f.step s).2.world.now = f.world.now := by
  cases s with
  | start id x => exact now_advance ..
  -- The one step that lets time pass is excluded.
  | sleep d => exact absurd rfl (hs d)
  | hold holder i => exact now_hold ..
  | giveBack holder => exact now_giveBack ..
  | advance span =>
    simp only [step]
    split <;> rfl
  | feed id outcome =>
    simp only [step, feed?]
    cases takeJob id f.jobs with
    | none => rfl
    | some p =>
      dsimp only [Option.bind_eq_bind, Option.bind_some]
      split
      · exact now_advance ..
      · rfl
  | drop id =>
    simp only [step, drop?]
    cases takeJob id f.jobs with
    | none => rfl
    | some p => exact now_leaves ..

namespace Mirrors

/-- The call is taken on both floors, or on neither. -/
theorem takeJob (h : Mirrors seen id f g) :
    (takeJob id f.jobs = none ∧ takeJob id g.jobs = none) ∨
    ∃ j others j' others', Floor.takeJob id f.jobs = some (j, others) ∧
      Floor.takeJob id g.jobs = some (j', others') ∧ j.id = id ∧ j.Alike seen j' ∧
      ({ f with jobs := others } : Floor β ρ).own id = ([], (f.own id).2) ∧
      ({ g with jobs := others' } : Floor β ρ).own id = ([], (f.own id).2) := by
  have hjobs := h.jobs
  -- The pairing excludes that one floor has the call and the other has not.
  rcases takeJob_own h.single.1 with ⟨hf, hfown⟩ | ⟨j, others, hf, hid, hfown, hfrest⟩ <;>
    rcases takeJob_own h.single.2 with ⟨hg, hgown⟩ | ⟨j', others', hg, -, hgown, hgrest⟩ <;>
    rw [hfown, hgown] at hjobs <;> cases hjobs
  · exact .inl ⟨hf, hg⟩
  · next halike =>
    exact .inr ⟨j, others, j', others', hf, hg, hid, halike, hfrest, h.completed ▸ hgrest⟩

/-- The call is fed an outcome, which opens its gate or is kept for later. -/
theorem feed (h : Mirrors seen id f g) (hnow : f.world.now = g.world.now) (outcome : Outcome β) :
    Mirrors seen id ((f.feed? id outcome).getD f) ((g.feed? id outcome).getD g) := by
  unfold feed?
  rcases h.takeJob with ⟨hf, hg⟩ | ⟨j, others, j', others', hf, hg, rfl, halike, hfrest, hgrest⟩
  · rw [hf, hg]
    exact h
  · have hfown : f.jobs.filter (·.id = j.id) = [j] :=
      (own_without_of_eq h.single.1 (takeJob_perm hf) rfl).1
    have hgown : g.jobs.filter (·.id = j.id) = [j'] :=
      (own_without_of_eq h.single.2 (takeJob_perm hg) (id_takeJob hg)).1
    rw [hf, hg]
    dsimp only [Option.bind_eq_bind, Option.bind_some]
    cases halike with
    | @intro id began since record fed w leaves next next' hnext =>
    -- Both calls wait in the same way, so both go on or both keep the outcome.
    by_cases hgated : w.gated = true
    · rw [dif_pos hgated, dif_pos hgated]
      have hscenes : Scene.Abreast ⟨f.world, record⟩ ⟨g.world, record⟩ := ⟨rfl, hnow⟩
      rw [← hnow]
      exact advance (f := { f with jobs := others }) (g := { g with jobs := others' }) hfrest hgrest
        hnow began ((hnext (.opened hgated (f.world.now - since) outcome)).advance rfl hscenes fed)
    · rw [dif_neg hgated, dif_neg hgated]
      refine ⟨?_, h.completed⟩
      simp only [own, Option.getD_some, filter_map_fed, if_true]
      rw [hfown, hgown]
      exact .one (.intro hnext)

/-- The call is dropped. -/
theorem drop (h : Mirrors seen id f g) (hnow : f.world.now = g.world.now) :
    Mirrors seen id ((f.drop? id).getD f) ((g.drop? id).getD g) := by
  unfold drop?
  -- Either no call waits under the name on both floors, or both have one and pause alike.
  rcases h.takeJob with ⟨hf, hg⟩ | ⟨j, others, j', others', hf, hg, -, halike, hfrest, hgrest⟩
  · rw [hf, hg]
    exact h
  · rw [hf, hg, hnow]
    dsimp only [Option.bind_eq_bind, Option.bind_some]
    cases halike with
    | @intro id' began since record fed w leaves next next' hnext =>
      exact complete
        (f := { f with world := w.leaves.foldl World.leave f.world, jobs := others })
        (g := { g with world := leaves.foldl World.leave g.world, jobs := others' })
        hfrest hgrest (record.report began g.world.now none)

/-- One step on both floors, other than making a call of the same name. -/
theorem step (h : Mirrors seen id f g) (hnow : f.world.now = g.world.now) {s : Step β ρ}
    (hs : ∀ x, s ≠ .start id x) : Mirrors seen id (f.step s).2 (g.step s).2 ∧
      (f.step s).2.world.now = (g.step s).2.world.now := by
  -- All steps but a sleep take no time on either floor.
  have still (hsleep : ∀ d, s ≠ .sleep d) : (f.step s).2.world.now = (g.step s).2.world.now := by
    rw [now_step f hsleep, now_step g hsleep, hnow]
  obtain ⟨hf, hg⟩ := h.single
  cases s with
  | start id' x =>
    have hne : id' ≠ id := fun heq => hs x (by rw [heq])
    exact ⟨h.congr (own_advance_of_ne hne ..) (own_advance_of_ne hne ..), still (by simp)⟩
  | feed id' outcome =>
    refine ⟨?_, still (by simp)⟩
    by_cases hid : id' = id
    · subst hid
      exact h.feed hnow outcome
    · exact h.congr (own_feed_of_ne hf hid outcome) (own_feed_of_ne hg hid outcome)
  | drop id' =>
    refine ⟨?_, still (by simp)⟩
    by_cases hid : id' = id
    · subst hid
      exact h.drop hnow
    · exact h.congr (own_drop_of_ne hf hid) (own_drop_of_ne hg hid)
  | sleep d =>
    show Mirrors seen id (f.runUntil _) (g.runUntil _) ∧ _
    rw [hnow]
    exact ⟨h.runUntil _, by simp only [Floor.step, Floor.sleep, now_runUntil, hnow]⟩
  | advance span =>
    have hsame (f : Floor β ρ) : (f.step (.advance span)).2.own id = f.own id := by
      simp only [Floor.step]
      split <;> rfl
    exact ⟨h.congr (hsame f) (hsame g), still (by simp)⟩
  | hold holder i =>
    have hsame (f : Floor β ρ) : (f.hold holder i).2.own id = f.own id := by
      obtain ⟨w, permits, heq⟩ := hold_eq f holder i
      rw [heq]
      rfl
    exact ⟨h.congr (hsame f) (hsame g), still (by simp)⟩
  | giveBack holder =>
    have hsame (f : Floor β ρ) : (f.giveBack holder).2.own id = f.own id := by
      obtain ⟨w, permits, heq⟩ := giveBack_eq f holder
      rw [heq]
      rfl
    exact ⟨h.congr (hsame f) (hsame g), still (by simp)⟩

/-- The same history on both floors. -/
theorem run (h : Mirrors seen id f g) (hnow : f.world.now = g.world.now)
    {history : List (Step β ρ)} (hhistory : ∀ s ∈ history, ∀ x, s ≠ .start id x) :
    Mirrors seen id (f.run history) (g.run history) := by
  induction history generalizing f g with
  | nil => exact h
  | cons s history ih =>
    obtain ⟨hstep, hnow'⟩ := h.step hnow (hhistory s List.mem_cons_self)
    exact ih hstep hnow' fun s' hs' => hhistory s' (List.mem_cons_of_mem _ hs')

/-- A call is reported on both floors or on neither. -/
private theorem mem_completed_iff (h : Mirrors seen id f g) (report : Report ρ) :
    (id, report) ∈ f.completed ↔ (id, report) ∈ g.completed := by
  have hown (f : Floor β ρ) : (id, report) ∈ (f.own id).2 ↔ (id, report) ∈ f.completed := by
    simp [own]
  rw [← hown f, h.completed, hown g]

end Mirrors

/-- Calls in the background that come to the same are reported alike, whatever is done after they
were made. -/
theorem mem_completed_iff_of_comesTo {x y z : Activity β ρ}
    (hx : x.ComesTo seen ⟨f.world, .empty⟩ z) (hy : y.ComesTo seen ⟨f.world, .empty⟩ z)
    (hunused : f.Unused id) {history : List (Step β ρ)}
    (hhistory : ∀ s ∈ history, ∀ x, s ≠ .start id x) (report : Report ρ) :
    (id, report) ∈ ((f.start id x).run history).completed ↔
      (id, report) ∈ ((f.start id y).run history).completed := by
  have hown : f.own id = ([], []) :=
    Prod.ext (List.filter_eq_nil_iff.2 (by simpa using hunused.jobs))
      (List.filter_eq_nil_iff.2 (by simpa using hunused.completed))
  -- Each of the two calls is compared with the one that both come to.
  have hmirrors {x : Activity β ρ} (hx : x.ComesTo seen ⟨f.world, .empty⟩ z) :
      Mirrors seen id (f.start id x) (f.start id z) :=
    .advance hown hown rfl _ (hx.advance ⟨rfl, rfl⟩ [])
  have hnow (x : Activity β ρ) : (f.start id x).world.now = (f.start id z).world.now := by
    rw [start, start, now_advance, now_advance]
  rw [((hmirrors hx).run (hnow x) hhistory).mem_completed_iff,
    ((hmirrors hy).run (hnow y) hhistory).mem_completed_iff]

end Floor

end Safeguard
