import Safeguard.Proofs.InstanceUse

/-!
# The history of a registry

A registry is asked for instances with any creators, calls are made in the foreground and in the
background, go on, are fed and dropped, known instances are used by their numbers, and the registry
is cleared, in any order (`Deed`). What each deed delivers to the shelf of a kind can be told from
the deed alone, and is all that the registry goes by. So the first creator that succeeds for a key
wins until the registry is cleared.

A deed registers what it delivers, at once (`Deed.Enters`), and then only uses instances. A call
knows the numbers that were under its keys when it was made, and numbers are never given twice. So
calls and owners that have known an instance from before the registry was cleared never come to the
one that is made after it (`untouched`).

## Key results

- `Deed.settles`: a deed registers first and then uses instances
- `using_after`: shelves after a history
- `untouched`: an instance that nobody has used since it was made
- `first_creator_wins`: what a registry keeps
-/

namespace Safeguard

namespace Floor.Step

variable {β ρ : Type}

/-- Time passes, the clock of the breakers is moved, or a call in the background is fed or
dropped. -/
def passes : Step β ρ → Bool
  | feed _ _ | drop _ | sleep _ | advance _ => true
  | start _ _ | hold _ _ | giveBack _ => false

end Floor.Step

/-- Time, outcomes from outside and drops use no other instance. -/
theorem Floor.Using.step {β ρ : Type} {P : Kind → Nat → Prop} {Q : World → Prop} {f : Floor β ρ}
    (hQ : World.KeptBy P Q) (h : f.Using P Q) {t : Floor.Step β ρ} (ht : t.passes = true) :
    (f.step t).2.Using P Q := by
  have hkept := Floor.Using.kept (β := β) (ρ := ρ) hQ
  cases t with
  | feed id outcome => exact hkept.exactly.feed h id outcome
  | drop id => exact hkept.exactly.dropped h id
  | sleep span => exact hkept.runUntil _ h
  | advance span =>
    simp only [Floor.step]
    split
    · exact ⟨hQ.clock _ _ h.world, h.jobs⟩
    · exact h
  | start | hold | giveBack => cases ht

/-- A call in the foreground can be made from what it has reached, as no time has passed. -/
private theorem Activity.Reaches.call_congr {β ρ : Type} {x y : Activity β ρ} {f : Floor β ρ}
    {w : World} (h : x.Reaches ⟨f.world, .empty⟩ y ⟨w, .empty⟩) :
    (f.call x).2 = (({ f with world := w } : Floor β ρ).call y).2 := by
  have hforeground := h.foreground_eq f
  simp only [Floor.call]
  rw [show Floor.foreground x .empty f = _ from hforeground]

namespace Orchestrator

variable {β γ ε : Type}

/-- A call of an operation that does not use instances itself. -/
structure Errand (β γ : Type) where
  name : String
  options : Options
  operation : Activity β (Except OperationError γ)
  plain : operation.Meets Effect.Plain fun _ => True

namespace Errand

/-- What is done in a call. -/
def activity (c : Errand β γ) : Activity β (Except (Fault OperationError) γ) :=
  call c.name c.options c.operation

/-- A call of an operation that a script plays. -/
def ofScript (name : String) (options : Options) (script : Script β) : Errand β β :=
  ⟨name, options, script.operation, script.meets_operation⟩

end Errand

/-- One thing that is done with an orchestrator and its registry. -/
inductive Deed (β γ ε : Type) where
  /-- The instance under a key is asked for, with a creator that comes to `created` if it is run. -/
  | ask (k : Kind) (key : String) (created : Except ε k.Instance)
  /-- A call is made and goes on to its end. -/
  | call (c : Errand β γ)
  /-- A call is made in the background. -/
  | start (id : String) (c : Errand β γ)
  /-- Time passes, or a call in the background is fed or dropped. -/
  | pass (t : Floor.Step β (Except (Fault OperationError) γ)) (h : t.passes = true)
  /-- Someone uses an instance whose number is known. -/
  | use (e : Effect) (h : e.handle?.isSome)
  /-- The registry is cleared. -/
  | clear

namespace Deed

/-- What a deed delivers to the shelf of a kind. -/
def delivers : (k : Kind) → Deed β γ ε → Delivery k.Instance
  | .breaker, ask .breaker key created => .ofCreated key created
  | .bulkhead, ask .bulkhead key created => .ofCreated key created
  | k, call c | k, start _ c => c.options.delivers c.name k
  | _, clear => .clear
  | _, _ => .nothing

private theorem delivers_clear (k : Kind) : (clear : Deed β γ ε).delivers k = .clear := by
  cases k <;> rfl

/-- The floor after a deed. -/
def floor (f : Floor β (Except (Fault OperationError) γ)) :
    Deed β γ ε → Floor β (Except (Fault OperationError) γ)
  | ask k key created => { f with world := (f.world.asked k key created).2 }
  | call c => (f.call c.activity).2
  | start id c => f.start id c.activity
  | pass t _ => (f.step t).2
  | use e _ => { f with world := (Scene.perform ⟨f.world, .empty⟩ e).2.world }
  | clear => { f with world := f.world.clearRegistry }

/-- The call that is made in a deed. -/
def errand? : Deed β γ ε → Option (Errand β γ)
  | call c | start _ c => some c
  | ask _ _ _ | pass _ _ | use _ _ | clear => none

/-- What a deed does to the world at once. -/
def Enters (w w' : World) : Deed β γ ε → Prop
  | ask k key created => w' = (w.asked k key created).2
  | call c | start _ c => World.Registers c.name (w.madeBulkhead c.name c.options.bulkhead)
      (breakerMade c.name c.options w) w w'
  | pass _ _ => w' = w
  | use e _ => w' = (Scene.perform ⟨w, .empty⟩ e).2.world
  | clear => w' = w.clearRegistry

variable {d : Deed β γ ε} {w w' : World}

/-- A deed does something to the world at once. Then, if it makes a call, this call goes on and uses
what is under its keys, with the calls that wait already. -/
theorem settles (d : Deed β γ ε) (f : Floor β (Except (Fault OperationError) γ)) :
    ∃ w, d.Enters f.world w ∧ ∀ P Q, World.KeptBy P Q → Q w →
      (∀ j ∈ f.jobs, Floor.Keeps P (.wait j.pause j.next)) →
      (∀ c ∈ d.errand?, ∀ k i, UnderKeys c.name c.options w k i → P k i) →
      (d.floor f).Using P Q := by
  cases d with
  | ask k key created => exact ⟨_, rfl, fun P Q _ hw hjobs _ => ⟨hw, hjobs⟩⟩
  | use e h => exact ⟨_, rfl, fun P Q _ hw hjobs _ => ⟨hw, hjobs⟩⟩
  | clear => exact ⟨_, rfl, fun P Q _ hw hjobs _ => ⟨hw, hjobs⟩⟩
  | pass t ht => exact ⟨_, rfl, fun P Q hQ hw hjobs _ => Floor.Using.step hQ ⟨hw, hjobs⟩ ht⟩
  -- A call registers its instances before it first waits, and is followed from there on.
  | call c =>
    obtain ⟨w, y, hreaches, hregisters, hy⟩ := call_settles c.name c.options c.plain f.world
    refine ⟨w, hregisters, fun P Q hQ hw hjobs hP => ?_⟩
    have hkeeps : Floor.Keeps P y := hy.mono (fun _ => .mono (hP c rfl)) fun _ => id
    have hcalled : (({ f with world := w } : Floor β _).call y).2.Using P Q :=
      Floor.Using.call hQ ⟨hw, hjobs⟩ hkeeps
    rw [← hreaches.call_congr] at hcalled
    exact hcalled
  | start id c =>
    obtain ⟨w, y, hreaches, hregisters, hy⟩ := call_settles c.name c.options c.plain f.world
    refine ⟨w, hregisters, fun P Q hQ hw hjobs hP => ?_⟩
    have hkeeps : Floor.Keeps P y := hy.mono (fun _ => .mono (hP c rfl)) fun _ h => h
    have hstarted : (({ f with world := w } : Floor β _).start id y).Using P Q :=
      Floor.Using.start hQ (f := { f with world := w }) ⟨hw, hjobs⟩ hkeeps id
    rw [← hreaches.start_congr hregisters.now] at hstarted
    exact hstarted

/-- Apart from the moves of an instance, a deed enters what it delivers. -/
theorem Enters.stock_eq (h : d.Enters w w') (hd : ∀ e he, d ≠ use e he) (k : Kind) :
    w'.stock k = (w.stock k).receive id (d.delivers k) := by
  cases d with
  | ask k' key created =>
    obtain rfl : w' = _ := h
    -- Of its own kind a lookup enters what was created, of the other kind nothing.
    cases k <;> cases k' <;> first
      | exact World.stock_asked created
      | exact World.stock_asked_of_ne (by decide) created
  | call c => cases k <;> exact World.Registers.stock_eq h _
  | start id c => cases k <;> exact World.Registers.stock_eq h _
  | pass =>
    obtain rfl : w' = w := h
    cases k <;> rfl
  | use e he => exact absurd rfl (hd e he)
  | clear =>
    obtain rfl : w' = _ := h
    rw [delivers_clear]
    exact World.stock_clearRegistry

/-- On the shelf of a kind, a deed enters what it delivers. -/
private theorem Enters.shelf_eq (h : d.Enters w w') (k : Kind) :
    w'.shelf k = (w.shelf k).receive k.label (d.delivers k) := by
  -- A use of an instance may move it, but its key and its policy stay.
  by_cases hd : ∀ e he, d ≠ use e he
  · rw [World.shelf, h.stock_eq hd, Shelf.map_receive, World.shelf]
  · push Not at hd
    obtain ⟨e, he, rfl⟩ := hd
    obtain rfl : w' = _ := h
    obtain ⟨p, hp⟩ := Option.isSome_iff_exists.1 he
    have hsame := World.shelf_perform (s := ⟨w, .empty⟩) (k := k)
      (Effect.uses_of_handle (P := fun _ _ => True) hp trivial)
    cases k <;> exact hsame

end Deed

/-- The floor after a history. -/
def floorAfter (listening : Bool) (h : List (Deed β γ ε)) :
    Floor β (Except (Fault OperationError) γ) :=
  h.foldl Deed.floor (.ofWorld (.start listening))

private theorem floorAfter_concat (listening : Bool) (h : List (Deed β γ ε)) (d : Deed β γ ε) :
    floorAfter listening (h ++ [d]) = d.floor (floorAfter listening h) :=
  List.foldl_concat ..

/-- The shelf of a kind after a history, as it follows from what was delivered. -/
def shelfAfter (k : Kind) (h : List (Deed β γ ε)) : Shelf (String × k.Policy) :=
  Shelf.filled (Deed.delivers k) k.label h

private theorem shelfAfter_concat (k : Kind) (h : List (Deed β γ ε)) (d : Deed β γ ε) :
    shelfAfter k (h ++ [d]) = (shelfAfter k h).receive k.label (d.delivers k) :=
  Shelf.filled_concat ..

/-- A shelf that was filled by a history is sound. -/
private theorem sound_shelfAfter (k : Kind) (h : List (Deed β γ ε)) : (shelfAfter k h).Sound :=
  Shelf.sound_filled ..

/-- The uses of instances and time leave the shelves as they are. -/
private theorem keptBy_shelves {P : Kind → Nat → Prop}
    (s : (k : Kind) → Shelf (String × k.Policy)) :
    World.KeptBy P fun w => ∀ k, w.shelf k = s k where
  now w t h k := by
    rw [← h k]
    cases k <;> rfl
  clock w clock h k := by
    rw [← h k]
    cases k <;> rfl
  perform s e he h k := by
    rw [← h k]
    exact World.shelf_perform he

/-- The instances that a call finds are among those that were made. -/
theorem UnderKeys.lt {name : String} {options : Options} {w : World} {k : Kind} {i : Nat}
    {s : Shelf (String × k.Policy)} (h : UnderKeys name options w k i) (hs : s.Sound)
    (hw : w.shelf k = s) : i < s.labels.length := by
  obtain ⟨key, a, -, hfind⟩ := h
  subst hw
  exact hs.lt key i hfind

/-- After a history the shelves hold what was delivered, and the calls that wait know only numbers
that were given. -/
theorem using_after (listening : Bool) (h : List (Deed β γ ε)) :
    (floorAfter listening h).Using (fun k i => i < (shelfAfter k h).labels.length)
      fun w => ∀ k, w.shelf k = shelfAfter k h := by
  -- By induction on the history, one deed at its end at a time.
  induction h using List.reverseRecOn with
  | nil => exact ⟨fun k => by cases k <;> rfl, nofun⟩
  | append_singleton h d ih =>
    rw [floorAfter_concat]
    obtain ⟨w, henters, huses⟩ := d.settles (floorAfter listening h)
    have hshelf (k : Kind) : w.shelf k = shelfAfter k (h ++ [d]) := by
      rw [henters.shelf_eq, ih.world k, shelfAfter_concat]
    refine huses _ _ (keptBy_shelves _) hshelf (fun j hj => ?_) fun c hc k i hi => ?_
    · refine (ih.jobs j hj).mono (fun e he => he.mono fun k i hi => ?_) fun _ => id
      rw [shelfAfter_concat]
      exact hi.trans_le (Shelf.labels_receive _ _).length_le
    · exact hi.lt (sound_shelfAfter k _) (hshelf k)

/-! ## Instances that nobody has used -/

/-- A deed that does not use what is under a key: it makes no call that asks for it, and the
instances that it uses of this kind have numbers below `n`. -/
def Deed.Spares (k : Kind) (key : String) (n : Nat) : Deed β γ ε → Prop
  | ask _ _ _ | pass _ _ => True
  | call c | start _ c => (c.options.delivers c.name k).under key = none
  | use e _ => ∀ i, e.handle? = some (k, i) → i < n
  | clear => False

variable {k : Kind} {key : String} {n : Nat} {d : Deed β γ ε} {w w' : World}

/-- A deed that spares a key does not clear the registry. -/
theorem Deed.Spares.clears (h : d.Spares k key n) : (d.delivers k).clears = false := by
  cases d with
  | clear => exact h.elim
  | ask k' key' created => cases k <;> cases k' <;> cases created <;> rfl
  | pass => cases k <;> rfl
  | use => cases k <;> rfl
  | call c | start _ c => cases k <;> exact c.options.clears_delivers _ _

/-- A call that spares a key uses no instance that is under it. -/
private theorem Deed.Spares.under_ne (h : d.Spares k key n) {c : Errand β γ} (hc : c ∈ d.errand?)
    {s : Shelf (String × k.Policy)} (hs : s.Sound) (hw : w.shelf k = s) {i : Nat}
    (hi : UnderKeys c.name c.options w k i) : s.directory.find? key ≠ some i := by
  obtain ⟨key', a, hdelivers, hfind⟩ := hi
  have hnone : (c.options.delivers c.name k).under key = none := by
    cases d <;> cases hc <;> exact h
  intro hkey
  -- On a sound shelf a number is under one key only.
  obtain rfl : key' = key := by
    subst hw
    exact hs.injective key' key i hfind hkey
  rw [Delivery.under_eq_some.2 hdelivers] at hnone
  cases hnone

/-- What is under a key after a deed that spares it. -/
theorem Deed.Enters.at?_eq (h : d.Enters w w') (hspares : d.Spares k key n)
    (hsound : (w.stock k).Sound) (hsince : (w.stock k).Since n) :
    w'.at? k key = (w.at? k key).or ((d.delivers k).under key) := by
  -- A use of an instance delivers nothing, and the key is spared because its number is at least
  -- `n`.
  by_cases hd : ∀ e he, d ≠ use e he
  · rw [World.at?_eq, h.stock_eq hd, hsound.at?_receive hspares.clears]
    rfl
  · push Not at hd
    obtain ⟨e, he, rfl⟩ := hd
    obtain rfl : w' = _ := h
    obtain ⟨⟨k', j⟩, hp⟩ := Option.isSome_iff_exists.1 he
    have hnothing : ((use e he : Deed β γ ε).delivers k).under key = none := by cases k <;> rfl
    rw [hnothing, Option.or_none]
    refine World.at?_perform (s := ⟨w, .empty⟩) (Effect.uses_of_handle hp ?_)
    rintro rfl hfind
    exact absurd (hspares j hp) (Nat.not_lt.2 (hsince.le key j hfind))

/-- The uses of other instances leave what is under a key as it is. -/
private theorem keptBy_at (s : (k : Kind) → Shelf (String × k.Policy)) (k : Kind) (key : String)
    (v : Option k.Instance) :
    World.KeptBy
      (fun k' i => i < (s k').labels.length ∧ (k' = k → (s k).directory.find? key ≠ some i))
      fun w => (∀ k', w.shelf k' = s k') ∧ w.at? k key = v where
  now w t h := by
    refine ⟨(keptBy_shelves (P := fun _ _ => True) s).now w t h.1, ?_⟩
    rw [← h.2]
    cases k <;> rfl
  clock w clock h := by
    refine ⟨(keptBy_shelves (P := fun _ _ => True) s).clock w clock h.1, ?_⟩
    rw [← h.2]
    cases k <;> rfl
  perform scene e he h := by
    refine ⟨(keptBy_shelves s).perform scene e he h.1, ?_⟩
    rw [← h.2]
    refine World.at?_perform (he.mono fun k' i hi hk => ?_)
    -- The instance under the key is not among those that the effect may use.
    have hdirectory : scene.world.directory k = (s k).directory :=
      congrArg Shelf.directory (h.1 k)
    rw [hdirectory]
    exact hi.2 hk

/-- The first instance that is delivered under a key in a history. -/
def firstDelivered (k : Kind) (key : String) (h : List (Deed β γ ε)) : Option k.Instance :=
  h.findSome? fun d => (d.delivers k).under key

/-- An instance that was made after the registry was cleared is as its creator made it if nobody has
used it since: calls from before and those who know instances from before do not come to it. -/
theorem untouched (listening : Bool) (k : Kind) (key : String) (before : List (Deed β γ ε))
    {later : List (Deed β γ ε)}
    (hspares : ∀ d ∈ later, d.Spares k key (shelfAfter k before).labels.length) :
    let h := before ++ .clear :: later
    (floorAfter listening h).Using
      (fun k' i => i < (shelfAfter k' h).labels.length ∧
        (k' = k → (shelfAfter k h).directory.find? key ≠ some i))
      fun w => (∀ k', w.shelf k' = shelfAfter k' h) ∧ w.at? k key = firstDelivered k key later := by
  -- By induction on what came after the clear. Right after it the key is vacant, whatever calls are
  -- still under way from before.
  induction later using List.reverseRecOn with
  | nil =>
    have hempty : (shelfAfter k (before ++ [(.clear : Deed β γ ε)])).directory = .empty := by
      rw [shelfAfter_concat, Deed.delivers_clear]
      rfl
    have hknown := using_after listening (before ++ [(.clear : Deed β γ ε)])
    refine ⟨⟨hknown.world, ?_⟩, fun j hj =>
      (hknown.jobs j hj).mono (fun e he => he.mono fun k' i hi => ⟨hi, fun _ => ?_⟩) fun _ h => h⟩
    · have hdirectory := congrArg Shelf.directory (hknown.world k)
      rw [hempty] at hdirectory
      rw [World.at?_eq, Shelf.at?, show (World.stock _ k).directory = _ from hdirectory]
      rfl
    · rw [hempty]
      exact (Option.some_ne_none i).symm
  | append_singleton later d ih =>
    intro h
    obtain ⟨hlater, hd⟩ := List.forall_mem_append.1 hspares
    have hd : d.Spares k key _ := hd d (List.mem_singleton_self d)
    have hg := ih hlater
    have hsince : (shelfAfter k (before ++ .clear :: later)).Since
        (shelfAfter k before).labels.length := Shelf.since_filled _ _ (Deed.delivers_clear k) later
    have hh : h = (before ++ .clear :: later) ++ [d] := by simp [h]
    clear_value h
    subst hh
    generalize before ++ .clear :: later = g at hg hsince ⊢
    obtain ⟨⟨hshelves, hat⟩, hjobs⟩ := hg
    rw [floorAfter_concat]
    obtain ⟨w, henters, huses⟩ := d.settles (floorAfter listening g)
    have hshelf (k : Kind) : w.shelf k = shelfAfter k (g ++ [d]) := by
      rw [henters.shelf_eq, hshelves k, shelfAfter_concat]
    refine huses _ _ (keptBy_at _ k key _) ⟨hshelf, ?_⟩ (fun j hj => ?_) fun c hc k' i hi => ?_
    · -- What is delivered comes to be there if nothing was.
      have hstock : ((floorAfter listening g).world.stock k).map k.label = shelfAfter k g :=
        hshelves k
      rw [henters.at?_eq hd (.of_map (hstock ▸ sound_shelfAfter k g)) (.of_map (hstock ▸ hsince)),
        hat, firstDelivered, firstDelivered, List.findSome?_append, List.findSome?_singleton]
    · -- A number that a call knows is not given again.
      refine (hjobs j hj).mono (fun e he => he.mono fun k' i hi => ⟨?_, ?_⟩) fun _ h => h
      · rw [shelfAfter_concat]
        exact hi.1.trans_le (Shelf.labels_receive _ _).length_le
      · rintro rfl hfind
        rw [shelfAfter_concat] at hfind
        rcases Shelf.find_receive hfind with hfind | rfl
        · exact hi.2 rfl hfind
        · exact absurd hi.1 (Nat.lt_irrefl _)
    · refine ⟨hi.lt (sound_shelfAfter k' _) (hshelf k'), ?_⟩
      rintro rfl
      exact hd.under_ne hc (sound_shelfAfter _ _) (hshelf _) hi

/-! ## What a registry keeps -/

/-- Nothing is under a key: who asks for it has the creator run. A failure of the creator is
answered and leaves the world as it is, and an instance gets the next number and is under the key
then. -/
structure Vacant (k : Kind) (key : String) (w : World) : Prop where
  find : (w.directory k).find? key = none
  at? : w.at? k key = none
  creates : ∀ {m : Type → Type} [Monad m] {ε : Type} (create : m (Except ε k.Instance)),
    w.getOrCreate k key create = do return w.enrol k key (← create)
  failed : ∀ {ε : Type} (e : ε), w.asked k key (.error e) = (.error e, w)
  succeeded : ∀ {ε : Type} (a : k.Instance), ∃ w', w.asked k key (.ok a : Except ε k.Instance) =
    (.ok (w.made k).length, w') ∧ w'.at? k key = some a

/-- Number `i`, which is the instance `b` now, is under a key: who asks for it gets that number, and
no creator is run. -/
structure Occupied (k : Kind) (key : String) (i : Nat) (b : k.Instance) (w : World) : Prop where
  find : (w.directory k).find? key = some i
  at? : w.at? k key = some b
  keeps : ∀ {m : Type → Type} [Monad m] {ε : Type} (create : m (Except ε k.Instance)),
    w.getOrCreate k key create = pure (.ok i, w)

/-- A key without a number is vacant. -/
private theorem vacant_of_find {k : Kind} {key : String} {w : World}
    (h : (w.directory k).find? key = none) : Vacant k key w where
  find := h
  at? := by rw [World.at?, h]; rfl
  creates := World.getOrCreate_of_none h
  failed _ := World.asked_of_none h _
  succeeded a := ⟨w.register k key a, World.asked_of_none h _, World.at?_register a⟩

/-- A key with a number is occupied by the instance of that number. -/
private theorem occupied_of_find {k : Kind} {key : String} {i : Nat} {b : k.Instance} {w : World}
    (h : (w.directory k).find? key = some i) (hb : (w.made k)[i]? = some b) :
    Occupied k key i b w where
  find := h
  at? := by rw [World.at?, h]; exact hb
  keeps := World.getOrCreate_of_some h

variable (listening : Bool) (h : List (Deed β γ ε)) (k : Kind)

/-- Keys have the numbers after a history that follow from what was delivered. -/
private theorem directory_after :
    (floorAfter listening h).world.directory k = (shelfAfter k h).directory :=
  congrArg Shelf.directory ((using_after listening h).world k)

/-- As many instances are there. -/
private theorem length_made_after :
    ((floorAfter listening h).world.made k).length = (shelfAfter k h).labels.length := by
  rw [← (using_after listening h).world k, World.shelf_labels_length]

/-- The first creator that succeeds for a key since the registry was cleared wins. -/
private theorem vacant_or_occupied (key : String) :
    (Unmade (Deed.delivers k) key h ∧ Vacant k key (floorAfter listening h).world) ∨
      ∃ before a b, FirstMade (Deed.delivers k) key h before a ∧ k.label b = k.label a ∧
        Occupied k key ((floorAfter listening before).world.made k).length b
          (floorAfter listening h).world := by
  rcases Shelf.filled_find (Deed.delivers k) k.label key h with
    ⟨hunmade, hnone⟩ | ⟨before, a, hfirst, hfind, hlabel⟩
  · refine .inl ⟨hunmade, vacant_of_find ?_⟩
    rw [directory_after]
    exact hnone
  · have hlabels : (floorAfter listening h).world.shelf k = shelfAfter k h :=
      (using_after listening h).world k
    -- The instance has moved since, but its label is the one that it was made with.
    have hmade : (((floorAfter listening h).world.made k).map k.label)[
        (shelfAfter k before).labels.length]? = some (k.label a) := by
      rw [show ((floorAfter listening h).world.made k).map k.label = (shelfAfter k h).labels from
        congrArg Shelf.labels hlabels]
      exact hlabel
    rw [List.getElem?_map] at hmade
    obtain ⟨b, hb, hba⟩ := Option.map_eq_some_iff.1 hmade
    refine .inr ⟨before, a, b, hfirst, hba, occupied_of_find ?_ ?_⟩
    · rw [directory_after, length_made_after]
      exact hfind
    · rw [length_made_after]
      exact hb

/-- A listing has the keys under which something is. -/
private theorem mem_listing_after (key : String) :
    key ∈ ((floorAfter listening h).world.listing k).map (·.1) ↔
      ¬ Unmade (Deed.delivers k) key h := by
  have hlisted : key ∈ ((floorAfter listening h).world.listing k).map (·.1) ↔
      ∃ b, (floorAfter listening h).world.at? k key = some b := by
    simp [World.mem_listing_iff]
  rw [hlisted]
  rcases vacant_or_occupied listening h k key with ⟨hunmade, hvacant⟩ | ⟨_, _, b, hfirst, _, hb⟩
  · simp [hunmade, hvacant.at?]
  · simp [hfirst.not_unmade, hb.at?]

/-! ### After the registry was cleared -/

variable {listening k} {key : String} {i : Nat} {before later : List (Deed β γ ε)}

/-- A number that was obtained at some time is a number of an instance that was made by then. -/
private theorem lt_of_obtained {earlier rest : List (Deed β γ ε)}
    (hbefore : before = earlier ++ rest)
    (hi : ((floorAfter listening earlier).world.directory k).find? key = some i) :
    i < ((floorAfter listening before).world.made k).length := by
  rw [directory_after] at hi
  rw [length_made_after, hbefore]
  exact ((sound_shelfAfter k earlier).lt key i hi).trans_le
    (Shelf.labels_filled _ _ earlier rest).length_le

/-- What is under a key was made after the registry was cleared. -/
private theorem le_of_cleared (hi :
    ((floorAfter listening (before ++ .clear :: later)).world.directory k).find? key = some i) :
    ((floorAfter listening before).world.made k).length ≤ i := by
  rw [directory_after] at hi
  rw [length_made_after]
  exact (Shelf.since_filled _ _ (Deed.delivers_clear k) later).le key i hi

/-- A registry keeps the instance of the first creator that succeeds. It is used in any way from
its beginning on: breakers and bulkheads are asked for with any creators, calls with any options are
made, go on, are fed and dropped in any order, known instances are used, and the registry is
cleared. In the world after that, for each kind of instances:

* A key under which no creator has succeeded since the registry was cleared is vacant. Otherwise it
  is occupied by the instance of the first one that has: the number that was next when this creator
  ran, with the name and the policy that it gave. Whoever asks gets this number, and a creator is
  run only for a vacant key.
* A call that is made now delivers an instance of its own policy under its key in the same way, and
  gets what is under its keys then.
* The listing has its keys in order, each once. They are the keys under which a creator has
  succeeded, and the listing says of them what lookups say.
* What is asked of one kind leaves the other as it is.
* Numbers that were obtained before the registry was cleared are not under any key any more, and the
  use of such an instance leaves what is under the keys as it is. A call that was under way then
  comes to no other instances than these, however it goes on. So an instance that was made after
  that is still as its creator made it, whatever calls from before and owners of instances from
  before have done in the meantime, until a call under its key or someone who has got it uses it. -/
theorem first_creator_wins (listening : Bool) (h : List (Deed β γ ε)) (k : Kind) :
    let w := (floorAfter listening h).world
    (∀ key, Unmade (Deed.delivers k) key h ∧ Vacant k key w ∨
      ∃ before a b, FirstMade (Deed.delivers k) key h before a ∧ k.label b = k.label a ∧
        Occupied k key ((floorAfter listening before).world.made k).length b w) ∧
    (∀ c : Errand β γ, ∃ answer w', (resolve c.name c.options : Activity β _).Reaches ⟨w, .empty⟩
        (.pure answer) ⟨w', .empty⟩ ∧ Resolved c.name c.options w' answer ∧
      w'.stock k = (w.stock k).receive id (c.options.delivers c.name k)) ∧
    (((w.listing k).map (·.1)).Pairwise (· < ·) ∧
      (∀ key, key ∈ (w.listing k).map (·.1) ↔ ¬ Unmade (Deed.delivers k) key h) ∧
      ∀ key b, (key, b) ∈ w.listing k ↔ w.at? k key = some b) ∧
    (∀ k' ≠ k, ∀ key (created : Except ε k'.Instance),
      (w.asked k' key created).2.directory k = w.directory k ∧
        (w.asked k' key created).2.made k = w.made k) ∧
    ∀ before later, h = before ++ .clear :: later →
      let n := ((floorAfter listening before).world.made k).length
      (∀ earlier rest, before = earlier ++ rest → ∀ key i,
        ((floorAfter listening earlier).world.directory k).find? key = some i → i < n) ∧
      (∀ key i, (w.directory k).find? key = some i → n ≤ i) ∧
      (∀ e i, e.handle? = some (k, i) → i < n → ∀ key,
        (Scene.perform ⟨w, .empty⟩ e).2.world.at? k key = w.at? k key) ∧
      (∀ j ∈ (floorAfter listening before).jobs,
        Floor.Keeps (fun k' i => k' = k → i < n) (.wait j.pause j.next)) ∧
      ∀ key, (∀ d ∈ later, d.Spares k key n) → w.at? k key = firstDelivered k key later := by
  intro w
  refine ⟨vacant_or_occupied listening h k, fun c => ?_, ⟨World.listing_sorted,
    mem_listing_after listening h k, fun _ _ => World.mem_listing_iff⟩,
    fun k' hk key created => World.asked_of_ne w hk key created, ?_⟩
  -- A call finds its instances before it first waits, so this can be followed in the world as it
  -- is.
  · obtain ⟨answer, ⟨w', record⟩, hreaches, hrecord, hregisters, hresolved⟩ :=
      resolve_resolves (β := β) c.name c.options ⟨w, .empty⟩
    obtain rfl : record = .empty := hrecord
    exact ⟨answer, w', hreaches, hresolved, hregisters.stock_eq k⟩
  · rintro before later rfl n
    refine ⟨fun earlier rest hbefore key i hi => lt_of_obtained hbefore hi,
      fun key i hi => le_of_cleared hi, fun e i he hi key => ?_, fun j hj => ?_,
      fun key hspares => ?_⟩
    · -- The number of what is under the key is another one.
      refine World.at?_perform (s := ⟨w, .empty⟩) (Effect.uses_of_handle he fun _ hfind => ?_)
      exact absurd hi (Nat.not_lt.2 (le_of_cleared hfind))
    · refine ((using_after listening before).jobs j hj).mono (fun e he => he.mono ?_) fun _ h => h
      rintro k' i hi rfl
      exact hi.trans_eq (length_made_after listening before k').symm
    · have hlength : n = (shelfAfter k before).labels.length := length_made_after listening before k
      rw [hlength] at hspares
      exact (untouched listening k key before hspares).world.2

/-- A call waits in a breaker that opens at its first failure, and a later creator of a breaker that
allows nine is not run. The registry is cleared, and now such a creator is run. Then the call fails
and its breaker, which is another one by then, opens; one more failure is recorded there. -/
theorem first_creator_wins_cleared :
    let strict : BreakerPolicy := ⟨1, .ofSeconds 10, 1⟩
    let lenient : BreakerPolicy := ⟨9, .ofSeconds 10, 1⟩
    let key := "ordersCircuitBreaker"
    let create : Deed Nat Nat String := .ask .breaker key (.ok (.fresh key lenient))
    let before : List (Deed Nat Nat String) :=
      [.ask .breaker key (.error "no breaker"),
        .start "slow" (.ofScript "orders" { Options.none with breaker := some strict }
          (.repeating .gated)), create]
    let later : List (Deed Nat Nat String) :=
      [create, .pass (.feed "slow" (.error ⟨"late"⟩)) rfl, .use (.settle 0 false) rfl]
    let w := (floorAfter true (before ++ .clear :: later)).world
    (floorAfter true before).world.breaker? key =
        some { Breaker.fresh key strict with admitted := 1 } ∧
      w.breaker? key = some (.fresh key lenient) ∧
      (w.breakers[0]?).map (·.state) = some .opened := by
  intro strict lenient key create before later w
  obtain ⟨-, -, -, -, hcleared⟩ := first_creator_wins true (before ++ .clear :: later) .breaker
  obtain ⟨-, -, -, -, huntouched⟩ := hcleared before later rfl
  have hlength : ((floorAfter true before).world.made .breaker).length = 1 := by decide +kernel
  -- What is done after the clear uses the breaker of number zero only, which was made before it.
  have hspares : ∀ d ∈ later, d.Spares .breaker key
      ((floorAfter true before).world.made .breaker).length := by
    rw [hlength]
    refine List.forall_mem_cons.2 ⟨trivial, List.forall_mem_cons.2 ⟨trivial,
      List.forall_mem_singleton.2 fun i hi => ?_⟩⟩
    obtain rfl : 0 = i := by simpa [Effect.handle?] using hi
    exact Nat.one_pos
  have hfirst : firstDelivered .breaker key later = some (.fresh key lenient) := by decide +kernel
  have hfound : w.breaker? key = some (.fresh key lenient) := by
    rw [← World.at?_breaker, huntouched key hspares, hfirst]
  exact ⟨by decide +kernel, hfound, by decide +kernel⟩

end Orchestrator

end Safeguard
