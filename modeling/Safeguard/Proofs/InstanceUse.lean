import Safeguard.Proofs.ActivityContract
import Safeguard.Proofs.InstanceKinds
import Safeguard.Proofs.NameIsolation

/-!
# Which instances a call uses

A call finds its instances before anything else of it happens, and from then on uses these and no
others, by their numbers (`Orchestrator.call_settles`). So what goes on in the background can be
told by the instances that the calls there know: `Floor.Using P Q` says that every call that waits
only ever uses instances of which `P` holds, and `Q` is kept by all that such calls do to the world.

## Key results

- `shelf_perform`, `made_perform`: what the use of an instance leaves as it is
- `Using.kept`, `Using.call`: calls in the background and in the foreground
- `call_settles`: what a call registers, and what it uses then
-/

namespace Safeguard

/-! ## Effects that use instances -/

namespace Effect

/-- The instance that an effect uses, by kind and number. -/
def handle? : Effect → Option (Kind × Nat)
  | acquire i | settle i _ => some (.breaker, i)
  | enter i | leave i => some (.bulkhead, i)
  | clock | invoke | conclude | tell _ | findBreaker _ _ | findBulkhead _ _ => none

/-- The effect looks nothing up, and `P` holds of the instance that it uses. -/
def Uses (P : Kind → Nat → Prop) : Effect → Prop
  | findBreaker _ _ | findBulkhead _ _ => False
  | acquire i | settle i _ => P .breaker i
  | enter i | leave i => P .bulkhead i
  | clock | invoke | conclude | tell _ => True

variable {P P' : Kind → Nat → Prop} {e : Effect}

/-- What any attempt may do uses no instance. -/
theorem Plain.uses (he : e.Plain) : e.Uses P := by
  cases e with
  | clock | invoke | conclude | tell => trivial
  | _ => exact he.elim

/-- More instances may be used. -/
theorem Uses.mono (h : ∀ k i, P k i → P' k i) (he : e.Uses P) : e.Uses P' := by
  cases e with
  | clock | invoke | conclude | tell => trivial
  | findBreaker | findBulkhead => exact he.elim
  | acquire | settle | enter | leave => exact h _ _ he

/-- What an effect uses is the instance of its number. -/
theorem uses_of_handle {h : Kind × Nat} (hh : e.handle? = some h) (hP : P h.1 h.2) :
    e.Uses P := by
  cases e <;> cases hh <;> exact hP

end Effect

namespace Bulkhead

variable (b : Bulkhead)

/-- A permit does not change the policy. -/
theorem policy_acquire : b.acquire.policy = b.policy := by
  unfold acquire
  split <;> rfl

/-- A bulkhead keeps its name. -/
private theorem name_release : b.release.name = b.name := rfl

/-- A bulkhead keeps its policy. -/
private theorem policy_release : b.release.policy = b.policy := rfl

end Bulkhead

namespace World

variable {P : Kind → Nat → Prop} {k : Kind}

/-- An effect that looks nothing up leaves every shelf as it is. -/
theorem shelf_perform {s : Scene} {e : Effect} (he : e.Uses P) :
    (s.perform e).2.world.shelf k = s.world.shelf k := by
  cases e with
  | clock | invoke | conclude => rfl
  | tell notice => exact shelf_tell _
  | findBreaker | findBulkhead => exact he.elim
  | acquire i =>
    exact shelf_stepBreaker i (fun b => b.name_acquire _) (fun b => b.policy_acquire _) _
  | settle i success =>
    exact shelf_stepBreaker i (fun b => b.name_settle _ _) (fun b => b.policy_settle _ _) _
  | enter i => exact shelf_stepBulkhead i Bulkhead.name_acquire Bulkhead.policy_acquire _
  | leave i => exact shelf_stepBulkhead i Bulkhead.name_release Bulkhead.policy_release _

/-- An effect that uses other instances leaves an instance as it is. -/
theorem made_perform {s : Scene} {e : Effect} {i : Nat} (he : e.Uses fun k' j => k' = k → j ≠ i) :
    ((s.perform e).2.world.made k)[i]? = (s.world.made k)[i]? := by
  cases e with
  | clock | invoke | conclude | tell => cases k <;> rfl
  | findBreaker | findBulkhead => exact he.elim
  -- A breaker moves, and the bulkheads do not.
  | acquire j | settle j success =>
    cases k with
    | breaker => exact (breakers_stepBreaker ..).trans (if_neg (he rfl))
    | bulkhead => exact congrArg (·[i]?) (bulkheads_stepBreaker ..)
  | enter j | leave j =>
    cases k with
    | breaker => exact congrArg (·[i]?) (SameBreakers.stepBulkhead s.world j _ _).breakers
    | bulkhead => exact (bulkheads_stepBulkhead ..).trans (if_neg (he rfl))

/-- An effect that uses other instances leaves what is under a key as it is. -/
theorem at?_perform {s : Scene} {e : Effect} {key : String}
    (he : e.Uses fun k' i => k' = k → (s.world.directory k).find? key ≠ some i) :
    (s.perform e).2.world.at? k key = s.world.at? k key := by
  have hdirectory : (s.perform e).2.world.directory k = s.world.directory k :=
    congrArg Shelf.directory (shelf_perform he)
  rw [at?, at?, hdirectory]
  cases hfind : (s.world.directory k).find? key with
  | none => rfl
  | some i =>
    -- The instance under the key is none of those that the effect uses.
    refine made_perform (he.mono fun k' j hj hk => ?_)
    rintro rfl
    exact hj hk hfind

/-- What time, the clock of the breakers and effects keep that look nothing up and use only
instances of which `P` holds. -/
structure KeptBy (P : Kind → Nat → Prop) (Q : World → Prop) : Prop where
  now : ∀ w t, Q w → Q { w with now := t }
  clock : ∀ w clock, Q w → Q { w with clock }
  perform : ∀ (s : Scene) e, Effect.Uses P e → Q s.world → Q (s.perform e).2.world

end World

/-! ## Calls in the background and in the foreground -/

namespace Floor

variable {β ρ : Type} {P : Kind → Nat → Prop} {Q : World → Prop} {f : Floor β ρ}
  {x : Activity β ρ}

/-- The activity looks nothing up any more and uses only instances of which `P` holds. -/
abbrev Keeps (P : Kind → Nat → Prop) (x : Activity β ρ) : Prop :=
  x.Meets (Effect.Uses P) fun _ => True

/-- `Q` holds of the world, and every call that waits uses only instances of which `P` holds. -/
structure Using (P : Kind → Nat → Prop) (Q : World → Prop) (f : Floor β ρ) : Prop where
  world : Q f.world
  jobs : ∀ j ∈ f.jobs, Keeps P (.wait j.pause j.next)

/-- An activity goes on to its next wait. -/
theorem Keeps.advance (hQ : World.KeptBy P Q) (hx : Keeps P x) (fed : List (Outcome β)) {s : Scene}
    (hs : Q s.world) : Q (x.advance fed s).2.2.world ∧
      ∀ w next, (x.advance fed s).1 = .waiting w next → Keeps P (.wait w next) := by
  -- By induction on the activity, with what is fed to it.
  induction hx generalizing s fed with
  | returned | panicked => exact ⟨hs, nofun⟩
  | act he _ ih => exact ih _ fed (hQ.perform s _ he hs)
  | @wait w next hleaves hnext ih =>
    have hwait : Keeps P (.wait w next) := .wait hleaves hnext
    have hstays : ∀ w' next', (.waiting w next : Pause β ρ) = .waiting w' next' →
        Keeps P (.wait w' next') := by
      rintro w' next' ⟨⟩
      exact hwait
    -- Nothing is left to feed, or the next outcome opens the gate if the call waits at one.
    cases fed with
    | nil => exact ⟨hs, hstays⟩
    | cons outcome fed =>
      unfold Activity.advance
      split
      · exact ih _ fed hs
      · exact ⟨hs, hstays⟩

namespace Using

/-- A call that goes on uses no other instances than it may. -/
theorem advance (hQ : World.KeptBy P Q) (h : f.Using P Q) (hx : Keeps P x) (id : String)
    (began : Nat) (record : Record) (fed : List (Outcome β)) :
    (f.advance id began record fed x).Using P Q := by
  obtain ⟨hworld, hwaits⟩ := hx.advance hQ fed (s := ⟨f.world, record⟩) h.world
  -- It ends and reports, or it waits and is one of the calls in the background.
  unfold Floor.advance
  split
  · next heq =>
    rw [heq] at hworld
    exact ⟨hworld, h.jobs⟩
  · next heq =>
    rw [heq] at hworld hwaits
    refine ⟨hworld, fun j hj => ?_⟩
    rcases List.mem_append.1 hj with hj | hj
    · exact h.jobs j hj
    · rw [List.mem_singleton.1 hj]
      exact hwaits _ _ rfl

/-- A call that is made does not look anything up any more, and so is like those that wait. -/
theorem start (hQ : World.KeptBy P Q) (h : f.Using P Q) (hx : Keeps P x) (id : String) :
    (f.start id x).Using P Q :=
  h.advance hQ hx ..

/-- Permits that are given back are those of bulkheads that the call may use. -/
theorem leaves (hQ : World.KeptBy P Q) {w : World} (hw : Q w) {l : List Nat}
    (hl : ∀ i ∈ l, Effect.Uses P (.leave i)) : Q (l.foldl World.leave w) := by
  induction l generalizing w with
  | nil => exact hw
  | cons i l ih =>
    obtain ⟨hi, hl⟩ := List.forall_mem_cons.1 hl
    exact ih (hQ.perform ⟨w, .empty⟩ (.leave i) hi hw) hl

/-- The calls that wait keep to their instances, whatever is done to them. -/
theorem kept (hQ : World.KeptBy P Q) : Floor.Kept (Using P Q : Floor β ρ → Prop) where
  atTime _ t h := ⟨hQ.now _ t h.world, h.jobs⟩
  wake f j others h hj hothers w := by
    have hrest : Using P Q { f with jobs := others } :=
      ⟨h.world, fun j hj => h.jobs j (hothers hj)⟩
    cases h.jobs j hj with
    | wait _ hnext => exact hrest.advance hQ (hnext w) ..
  fed f id outcome h := by
    refine ⟨h.world, fun j hj => ?_⟩
    obtain ⟨k, hk, rfl⟩ := List.mem_map.1 hj
    by_cases hid : k.id = id
    · rw [if_pos hid]
      exact h.jobs k hk
    · rw [if_neg hid]
      exact h.jobs k hk
  drop f j others id h hj hothers := by
    refine ⟨?_, fun j hj => h.jobs j (hothers hj)⟩
    -- The permits that the call holds are of bulkheads that it may use.
    cases h.jobs j hj with
    | wait hleaves _ => exact leaves hQ h.world hleaves

/-- A call in the foreground goes on among those in the background. -/
theorem foreground (hQ : World.KeptBy P Q) (h : f.Using P Q) (hx : Keeps P x) (record : Record) :
    (Floor.foreground x record f).2.2.Using P Q := by
  induction hx generalizing f record with
  | returned | panicked => exact h
  | act he _ ih =>
    exact ih _ (f := { f with world := _ }) ⟨hQ.perform ⟨f.world, record⟩ _ he h.world, h.jobs⟩ _
  | wait _ _ ih =>
    unfold Floor.foreground
    split
    -- While it waits, the others go on.
    · exact ih _ ((kept hQ).runUpTo _ h) record
    · exact h

/-- A call in the foreground keeps to its instances as well. -/
theorem call (hQ : World.KeptBy P Q) (h : f.Using P Q) (hx : Keeps P x) :
    (f.call x).2.Using P Q :=
  (kept hQ).runUntil _ (h.foreground hQ hx .empty)

end Using

end Floor

/-! ## The instances of a call -/

namespace Orchestrator

variable {β γ : Type}

/-- The instances that a call uses: those under the keys of its name, if it asks for them. -/
def UnderKeys (name : String) (options : Options) (w : World) (k : Kind) (i : Nat) : Prop :=
  ∃ key a, options.delivers name k = .offer key a ∧ (w.directory k).find? key = some i

/-- A call that has got a number for a layer has asked for the layer. -/
private theorem Stands.exists_asked {π : Type} {asked : Option π} {found number : Option Nat}
    (h : Stands asked found number) {i : Nat} (hi : i ∈ number) : ∃ p, asked = some p := by
  cases h with
  | absent => cases hi
  | found hasked => exact ⟨_, hasked⟩

/-- Before it does anything else, a call registers what it delivers. From then on it uses the
instances that are under its keys, and no others. -/
theorem call_settles (name : String) (options : Options)
    {operation : Activity β (Except OperationError γ)}
    (hop : operation.Meets Effect.Plain fun _ => True) (w : World) :
    ∃ w' y, (call name options operation).Reaches ⟨w, .empty⟩ y ⟨w', .empty⟩ ∧
      World.Registers name (w.madeBulkhead name options.bulkhead) (breakerMade name options w)
        w w' ∧
      Floor.Keeps (UnderKeys name options w') y := by
  obtain ⟨answer, ⟨w', record⟩, hreaches, hrecord, hregisters, hresolved⟩ :=
    resolve_resolves (β := β) name options ⟨w, .empty⟩
  obtain rfl : record = .empty := hrecord
  refine ⟨w', _, .act ((hreaches.bind _).bind _), hregisters, ?_⟩
  have hreported {x : Activity β (Except (Fault OperationError) γ)}
      (hx : Floor.Keeps (UnderKeys name options w') x) :
      Floor.Keeps (UnderKeys name options w') (reported name w.now x) :=
    hx.bind fun result _ => .act trivial fun _ => .telling (fun _ _ => trivial) (.returned trivial)
  -- A call that is refused uses nothing.
  cases hresolved with
  | refused => exact hreported (.returned trivial)
  | found hvalid hbulkhead hbreaker =>
    apply hreported
    refine meets_layered (fun e he => he.uses) (fun i hi => ?_) (fun i hi => ?_) hop
    · have hfinds : UnderKeys name options w' .breaker i := by
        obtain ⟨p, hasked⟩ := hbreaker.exists_asked hi
        exact ⟨_, _, Options.delivers_breaker hvalid hasked, hbreaker.found_eq hi⟩
      exact ⟨hfinds, fun _ => hfinds⟩
    · have hfinds : UnderKeys name options w' .bulkhead i := by
        obtain ⟨p, hasked⟩ := hbulkhead.exists_asked hi
        exact ⟨_, _, Options.delivers_bulkhead hvalid hasked, hbulkhead.found_eq hi⟩
      exact ⟨hfinds, hfinds⟩

end Orchestrator

end Safeguard
