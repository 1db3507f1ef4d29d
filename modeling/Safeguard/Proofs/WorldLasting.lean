import Safeguard.Floor.History
import Safeguard.Proofs.BreakerSession
import Safeguard.Proofs.BulkheadPermit
import Safeguard.Proofs.FloorInvariant
import Safeguard.Proofs.InstanceLookup

/-!
# What lasts in a world

`World.Lasting P` says that nothing an activity does to a world takes `P` away, nor does time. Then
`P` lasts on a floor, through calls in the background and in the foreground. `World.Abiding P` says
the same of all that is done with an orchestrator, which `Floor.Use` lists: calls in the background
and in the foreground, and what its owner does meanwhile.

A key keeps its number (`lasting_find_bulkhead`) as long as the registry is not cleared. What every
new breaker is, and stays by each of its moves, every registered breaker is
(`abiding_eachBreaker`). So every registered instance is called after its key (`World.Named`).

## Key results

- `Lasting.step`, `Lasting.call`: what lasts, on a floor
- `Abiding.uses`: what abides, with an orchestrator
- `named_of_start`: instances are called after their keys, whatever is done
-/

namespace Safeguard

/-- A breaker becomes another one by one of its moves. -/
inductive Breaker.Moves (b : Breaker) : Breaker → Prop
  | acquire (now : Duration) : Moves b (b.acquire now)
  | settle (now : Duration) (success : Bool) : Moves b (b.settle now success)
  | reset : Moves b b.reset

/-- No move changes the name of a breaker. -/
theorem Breaker.Moves.name_eq {b b' : Breaker} (h : b.Moves b') : b'.name = b.name := by
  cases h with
  | acquire now => exact b.name_acquire now
  | settle now success => exact b.name_settle now success
  | reset => rfl

namespace World

/-- What effects, time and the clock of the breakers keep. -/
structure Lasting (P : World → Prop) : Prop where
  now : ∀ w t, P w → P { w with now := t }
  clock : ∀ w clock, P w → P { w with clock }
  tell : ∀ w notices, P w → P (w.tell notices)
  findBreaker : ∀ w key policy, P w → P (w.findBreaker key policy).2
  findBulkhead : ∀ w key policy, P w → P (w.findBulkhead key policy).2
  stepBreaker : ∀ w i (after : Breaker → Breaker) notices, (∀ b : Breaker, b.Moves (after b)) →
    P w → P (w.stepBreaker i after notices)
  stepBulkhead : ∀ w i (after : Bulkhead → Bulkhead) notices, (∀ b, (after b).name = b.name) →
    P w → P (w.stepBulkhead i after notices)

/-- What everything keeps that is done with an orchestrator. -/
structure Abiding (P : World → Prop) : Prop extends Lasting P where
  addBreaker : ∀ w b, P w → P (w.addBreaker b).2
  addBulkhead : ∀ w c, P w → P (w.addBulkhead c).2
  clear : ∀ w, P w → P w.clearRegistry

end World

theorem Bulkhead.name_acquire (b : Bulkhead) : b.acquire.name = b.name := by
  unfold Bulkhead.acquire
  split <;> rfl

namespace World.Lasting

variable {β ρ : Type} {P : World → Prop}

theorem enter (hP : Lasting P) {w : World} (h : P w) (i : Nat) : P (w.enter i).2 :=
  hP.stepBulkhead w i _ _ Bulkhead.name_acquire h

theorem leave (hP : Lasting P) {w : World} (h : P w) (i : Nat) : P (w.leave i) :=
  hP.stepBulkhead w i _ _ (fun _ => rfl) h

theorem leaves (hP : Lasting P) {w : World} (h : P w) (l : List Nat) :
    P (l.foldl World.leave w) := by
  induction l generalizing w with
  | nil => exact h
  | cons i l ih => exact ih (hP.leave h i)

/-- An effect, whatever it is. -/
theorem perform (hP : Lasting P) {s : Scene} (h : P s.world) (e : Effect) :
    P (s.perform e).2.world := by
  cases e with
  | clock | invoke | conclude => exact h
  | tell notice => exact hP.tell _ _ h
  | findBreaker key policy => exact hP.findBreaker _ key policy h
  | findBulkhead key policy => exact hP.findBulkhead _ key policy h
  | acquire i => exact hP.stepBreaker _ i _ _ (fun _ => .acquire _) h
  | settle i success => exact hP.stepBreaker _ i _ _ (fun _ => .settle _ _) h
  | enter i => exact hP.enter h i
  | leave i => exact hP.leave h i

/-- What an activity does before it waits. -/
theorem reaches (hP : Lasting P) {α : Type} {x y : Activity β α} {s s' : Scene}
    (hxy : x.Reaches s y s') (h : P s.world) : P s'.world := by
  induction hxy with
  | refl => exact h
  | act _ ih => exact ih (hP.perform h _)

/-- A call that goes on as far as it can. -/
theorem advance (hP : Lasting P) {α : Type} (x : Activity β α) {s : Scene} (h : P s.world)
    (fed : List (Outcome β)) : P (x.advance fed s).2.2.world := by
  -- By induction on the activity, with what is fed to it.
  induction x generalizing s fed with
  | ended ending => exact h
  | act e next ih => exact ih _ (hP.perform h e) fed
  | wait w next ih =>
    cases fed with
    | nil => exact h
    | cons outcome fed =>
      unfold Activity.advance
      split
      · exact ih _ h fed
      · exact h

theorem floorAdvance (hP : Lasting P) {f : Floor β ρ} (h : P f.world) (id : String) (began : Nat)
    (record : Record) (fed : List (Outcome β)) (x : Activity β ρ) :
    P (f.advance id began record fed x).world := by
  have hx := hP.advance x (s := ⟨f.world, record⟩) h fed
  unfold Floor.advance
  generalize x.advance fed ⟨f.world, record⟩ = result at hx ⊢
  obtain ⟨pause, fed', s⟩ := result
  cases pause <;> exact hx

/-- What lasts in the world lasts on a floor. -/
theorem kept (hP : Lasting P) : Floor.Kept fun f : Floor β ρ => P f.world where
  atTime _ t h := hP.now _ t h
  wake f _ others h _ _ _ := hP.floorAdvance (f := { f with jobs := others }) h ..
  fed _ _ _ h := h
  drop _ _ _ _ h _ _ := hP.leaves h _

theorem giveBack (hP : Lasting P) {f : Floor β ρ} (h : P f.world) (holder : String) :
    P (f.giveBack holder).2.world := by
  unfold Floor.giveBack
  split
  · exact h
  · exact hP.leave h _

theorem hold (hP : Lasting P) {f : Floor β ρ} (h : P f.world) (holder : String) (i : Nat) :
    P (f.hold holder i).2.world := by
  have hentered := hP.enter h i
  unfold Floor.hold
  split
  · next heq =>
    rw [heq] at hentered
    exact hentered
  · next world heq =>
    rw [heq] at hentered
    exact hP.giveBack (f := { f with world }) hentered holder

/-- A step of a history. -/
theorem step (hP : Lasting P) {f : Floor β ρ} (h : P f.world) (s : Floor.Step β ρ) :
    P (f.step s).2.world :=
  hP.kept.step h s (fun _ _ _ => hP.floorAdvance h ..) (fun _ clock _ => hP.clock _ clock h)
    (fun holder i => hP.hold h holder i) fun holder => hP.giveBack h holder

/-- A call in the foreground. -/
theorem foreground (hP : Lasting P) (x : Activity β ρ) (record : Record) {f : Floor β ρ}
    (h : P f.world) : P (Floor.foreground x record f).2.2.world := by
  -- By induction on the activity; the floor goes on while it waits.
  induction x generalizing record f with
  | ended ending => exact h
  | act e next ih => exact ih _ _ (hP.perform (s := ⟨f.world, record⟩) h e)
  | wait w next ih =>
    simp only [Floor.foreground]
    split
    · exact ih _ _ (hP.kept.runUpTo _ h)
    · exact h

/-- A call with all that goes on meanwhile. -/
theorem call (hP : Lasting P) {f : Floor β ρ} (h : P f.world) (x : Activity β ρ) :
    P (f.call x).2.world :=
  hP.kept.runUntil _ (hP.foreground x .empty h)

end World.Lasting

/-! ## Keys and names -/

namespace World

variable {w : World}

/-- A move is one of the breaker with that number. -/
theorem breakers_stepBreaker {i j : Nat} (after : Breaker → Breaker)
    (notices : Breaker → List Notice) :
    (w.stepBreaker j after notices).breakers[i]? =
      if j = i then (w.breakers[i]?).map after else w.breakers[i]? := by
  have hmodify : (w.stepBreaker j after notices).breakers = w.breakers.modify j after := by
    rw [List.modify_eq_set_getElem?, stepBreaker]
    cases w.breakers[j]? <;> rfl
  rw [hmodify, List.getElem?_modify]
  by_cases hji : j = i <;> simp [hji]

theorem registry_stepBreaker (i : Nat) (after : Breaker → Breaker)
    (notices : Breaker → List Notice) : (w.stepBreaker i after notices).registry = w.registry := by
  unfold stepBreaker
  split <;> rfl

theorem registry_stepBulkhead (i : Nat) (after : Bulkhead → Bulkhead)
    (notices : Bulkhead → List Notice) :
    (w.stepBulkhead i after notices).registry = w.registry := by
  unfold stepBulkhead
  split <;> rfl

theorem clock_stepBreaker (i : Nat) (after : Breaker → Breaker)
    (notices : Breaker → List Notice) : (w.stepBreaker i after notices).clock = w.clock := by
  unfold stepBreaker
  split <;> rfl

/-- No effect moves the clock of the breakers. -/
theorem clock_perform (s : Scene) (e : Effect) : (s.perform e).2.world.clock = s.world.clock := by
  cases e with
  | clock | invoke | conclude | tell => rfl
  | findBreaker key policy =>
    exact findBreaker_keeps (P := (·.clock = s.world.clock)) (fun _ _ => id) rfl fun _ => rfl
  | findBulkhead key policy =>
    exact findBulkhead_keeps (P := (·.clock = s.world.clock)) (fun _ _ => id) rfl fun _ => rfl
  | acquire i | settle i => exact clock_stepBreaker i _ _
  | enter i | leave i => exact (SameBreakers.stepBulkhead s.world i _ _).clock

/-- A key keeps its number. -/
theorem lasting_find_bulkhead (key : String) (i : Nat) :
    Lasting fun w => w.registry.bulkheads.find? key = some i where
  now _ _ h := h
  clock _ _ h := h
  tell _ _ h := h
  findBreaker _ _ _ h :=
    findBreaker_keeps (P := (·.registry.bulkheads.find? key = some i)) (fun _ _ => id) h fun _ => h
  findBulkhead w key' _ h := by
    refine findBulkhead_keeps (P := (·.registry.bulkheads.find? key = some i)) (fun _ _ => id) h
      fun hnone => ?_
    -- The new key is another one, as this one has a number already.
    have hne : key ≠ key' := by
      rintro rfl
      simp [h] at hnone
    rw [Directory.find?_insert_of_ne _ hne]
    exact h
  stepBreaker _ i _ _ _ h := by
    rw [registry_stepBreaker]
    exact h
  stepBulkhead _ i _ _ _ h := by
    rw [registry_stepBulkhead]
    exact h

/-- Every registered breaker is there, and `Q` holds of its key and of the breaker. -/
def EachBreaker (Q : String → Breaker → Prop) (w : World) : Prop :=
  ∀ key i, w.registry.breakers.find? key = some i → ∃ b, w.breakers[i]? = some b ∧ Q key b

/-- Every registered instance is there and is called after its key. -/
structure Named (w : World) : Prop where
  breaker : ∀ key i, w.registry.breakers.find? key = some i →
    ∃ b, w.breakers[i]? = some b ∧ b.name = key
  bulkhead : ∀ key i, w.registry.bulkheads.find? key = some i →
    ∃ b, w.bulkheads[i]? = some b ∧ b.name = key

/-- One more instance, which is not registered, leaves the registered ones where they are. -/
private theorem exists_append {α : Type} {Q : String → α → Prop} {l : List α} {d : Directory}
    (h : ∀ key i, d.find? key = some i → ∃ b, l[i]? = some b ∧ Q key b) (a : α) (key : String)
    (i : Nat) (hi : d.find? key = some i) : ∃ b, (l ++ [a])[i]? = some b ∧ Q key b := by
  obtain ⟨b, hb, hQ⟩ := h key i hi
  have hlt := (List.getElem?_eq_some_iff.1 hb).1
  exact ⟨b, (List.getElem?_append_left hlt).trans hb, hQ⟩

/-- A new instance under a key is what every instance is, and the others stay. -/
private theorem exists_concat {α : Type} {Q : String → α → Prop} {l : List α} {a : α}
    {d : Directory} (h : ∀ key i, d.find? key = some i → ∃ b, l[i]? = some b ∧ Q key b)
    {new : String} (ha : Q new a) (key : String) (i : Nat)
    (hi : (d.insert new l.length).find? key = some i) :
    ∃ b, (l ++ [a])[i]? = some b ∧ Q key b := by
  -- The new instance is the last of the list, all others keep their places.
  by_cases hkey : key = new
  · subst hkey
    rw [Directory.find?_insert_self] at hi
    obtain rfl : l.length = i := Option.some.inj hi
    exact ⟨a, List.getElem?_concat_length, ha⟩
  · rw [Directory.find?_insert_of_ne _ hkey] at hi
    exact exists_append h a key i hi

/-- What a new breaker is and stays by each of its moves, every registered breaker is. -/
theorem abiding_eachBreaker {Q : String → Breaker → Prop} (hfresh : ∀ key p, Q key (.fresh key p))
    (hmoves : ∀ key (b b' : Breaker), b.Moves b' → Q key b → Q key b') :
    Abiding (EachBreaker Q) where
  now _ _ h := h
  clock _ _ h := h
  tell _ _ h := h
  findBreaker _ key policy h :=
    findBreaker_keeps (P := EachBreaker Q) (fun _ _ h => h) h fun _ =>
      exists_concat h (hfresh key policy)
  findBulkhead _ _ _ h :=
    findBulkhead_keeps (P := EachBreaker Q) (fun _ _ h => h) h fun _ => h
  stepBreaker w i after notices hafter h := by
    intro key j hj
    rw [registry_stepBreaker] at hj
    obtain ⟨b, hb, hQ⟩ := h key j hj
    rw [breakers_stepBreaker, hb]
    -- The one that moves keeps `Q` by `hmoves`.
    by_cases hij : i = j
    · exact ⟨after b, by simp [hij], hmoves key b _ (hafter b) hQ⟩
    · exact ⟨b, by simp [hij], hQ⟩
  stepBulkhead w i after notices _ h := by
    intro key j hj
    rw [registry_stepBulkhead] at hj
    rw [(SameBreakers.stepBulkhead w i after notices).breakers]
    exact h key j hj
  addBreaker _ b h := exists_append h b
  addBulkhead _ _ h := h
  clear _ _ _ _ hi := by cases hi

/-- Every registered bulkhead is called after its key. -/
private theorem abiding_bulkhead_name : Abiding fun w => ∀ key i,
    w.registry.bulkheads.find? key = some i → ∃ c, w.bulkheads[i]? = some c ∧ c.name = key where
  now _ _ h := h
  clock _ _ h := h
  tell _ _ h := h
  findBreaker w key policy h :=
    findBreaker_keeps (P := fun w => ∀ key i, w.registry.bulkheads.find? key = some i →
      ∃ c, w.bulkheads[i]? = some c ∧ c.name = key) (fun _ _ h => h) h fun _ => h
  findBulkhead w key policy h :=
    findBulkhead_keeps (P := fun w => ∀ key i, w.registry.bulkheads.find? key = some i →
      ∃ c, w.bulkheads[i]? = some c ∧ c.name = key) (fun _ _ h => h) h fun _ => exists_concat h rfl
  stepBreaker w i after notices _ h := by
    intro key j hj
    rw [registry_stepBreaker] at hj
    rw [bulkheads_stepBreaker]
    exact h key j hj
  stepBulkhead w i after notices hname h := by
    intro key j hj
    rw [registry_stepBulkhead] at hj
    obtain ⟨c, hc, hkey⟩ := h key j hj
    rw [bulkheads_stepBulkhead, hc]
    by_cases hij : i = j
    · exact ⟨after c, by simp [hij], (hname c).trans hkey⟩
    · exact ⟨c, by simp [hij], hkey⟩
  addBreaker _ _ h := h
  addBulkhead _ c h := exists_append h c
  clear _ _ _ _ hi := by cases hi

/-- What abides together. -/
theorem Abiding.and {P R : World → Prop} (hP : Abiding P) (hR : Abiding R) :
    Abiding fun w => P w ∧ R w where
  now w t h := ⟨hP.now w t h.1, hR.now w t h.2⟩
  clock w clock h := ⟨hP.clock w clock h.1, hR.clock w clock h.2⟩
  tell w notices h := ⟨hP.tell w notices h.1, hR.tell w notices h.2⟩
  findBreaker w key policy h := ⟨hP.findBreaker w key policy h.1, hR.findBreaker w key policy h.2⟩
  findBulkhead w key policy h :=
    ⟨hP.findBulkhead w key policy h.1, hR.findBulkhead w key policy h.2⟩
  stepBreaker w i after notices hafter h :=
    ⟨hP.stepBreaker w i after notices hafter h.1, hR.stepBreaker w i after notices hafter h.2⟩
  stepBulkhead w i after notices hname h :=
    ⟨hP.stepBulkhead w i after notices hname h.1, hR.stepBulkhead w i after notices hname h.2⟩
  addBreaker w b h := ⟨hP.addBreaker w b h.1, hR.addBreaker w b h.2⟩
  addBulkhead w c h := ⟨hP.addBulkhead w c h.1, hR.addBulkhead w c h.2⟩
  clear w h := ⟨hP.clear w h.1, hR.clear w h.2⟩

private theorem named_iff {w : World} : w.Named ↔ w.EachBreaker (fun key b => b.name = key) ∧
    ∀ key i, w.registry.bulkheads.find? key = some i →
      ∃ c, w.bulkheads[i]? = some c ∧ c.name = key :=
  ⟨fun h => ⟨h.breaker, h.bulkhead⟩, fun h => ⟨h.1, h.2⟩⟩

/-- Whatever is done, instances are called after their keys. -/
theorem abiding_named : Abiding Named := by
  have hbreaker := abiding_eachBreaker (Q := fun key b => b.name = key) (fun _ _ => rfl)
    fun key b b' hb hkey => hb.name_eq.trans hkey
  simpa only [← named_iff] using hbreaker.and abiding_bulkhead_name

/-- Whether signals are kept is decided at the beginning. -/
theorem abiding_listening (listening : Bool) : Abiding (·.listening = listening) where
  now _ _ h := h
  clock _ _ h := h
  tell _ _ h := h
  findBreaker _ _ _ h :=
    findBreaker_keeps (P := (·.listening = listening)) (fun _ _ h => h) h fun _ => h
  findBulkhead _ _ _ h :=
    findBulkhead_keeps (P := (·.listening = listening)) (fun _ _ h => h) h fun _ => h
  stepBreaker w i after notices _ h := by
    unfold World.stepBreaker
    split <;> exact h
  stepBulkhead w i after notices _ h := by
    unfold World.stepBulkhead
    split <;> exact h
  addBreaker _ _ h := h
  addBulkhead _ _ h := h
  clear _ h := h

end World

/-! ## Everything that is done with an orchestrator -/

namespace Floor

variable {β ρ : Type}

/-- One thing that is done with an orchestrator. -/
inductive Use (β ρ : Type) where
  /-- A step in the background. -/
  | step (s : Step β ρ)
  /-- A call in the foreground. -/
  | call (x : Activity β ρ)
  /-- The reports on the calls that ended are collected. -/
  | collect
  /-- Someone else uses an instance, or registers another one under its name. -/
  | outside (e : Effect)
  /-- A breaker or a bulkhead is made that is not registered. -/
  | addBreaker (b : Breaker)
  | addBulkhead (b : Bulkhead)
  /-- The breaker under a key is reset. -/
  | resetKey (key : String)
  /-- Every breaker is reset. -/
  | resetAll
  /-- The registry is cleared. -/
  | clear

/-- The floor after one thing was done. -/
def use (f : Floor β ρ) : Use β ρ → Floor β ρ
  | .step s => (f.step s).2
  | .call x => (f.call x).2
  | .collect => f.collect.2
  | .outside e => { f with world := (Scene.perform ⟨f.world, .empty⟩ e).2.world }
  | .addBreaker b => { f with world := (f.world.addBreaker b).2 }
  | .addBulkhead b => { f with world := (f.world.addBulkhead b).2 }
  | .resetKey key => { f with world := (f.world.resetKey key).2 }
  | .resetAll => { f with world := f.world.resetAll }
  | .clear => { f with world := f.world.clearRegistry }

/-- The floor after one thing was done after another. -/
def uses (f : Floor β ρ) (l : List (Use β ρ)) : Floor β ρ := l.foldl use f

end Floor

namespace World.Abiding

variable {β ρ : Type} {P : World → Prop} {w : World}

theorem resetBreaker (hP : Abiding P) (h : P w) (i : Nat) : P (w.resetBreaker i) :=
  hP.stepBreaker w i _ _ (fun _ => .reset) h

/-- The breaker under a key, if there is one, is reset. -/
theorem resetKey (hP : Abiding P) (h : P w) (key : String) : P (w.resetKey key).2 := by
  unfold World.resetKey
  split
  · exact h
  · exact hP.tell _ _ (hP.resetBreaker h _)

/-- All breakers are reset. -/
theorem resetAll (hP : Abiding P) (h : P w) : P w.resetAll := by
  unfold World.resetAll
  apply hP.tell
  generalize w.registry.breakers.entries = entries
  induction entries generalizing w with
  | nil => exact h
  | cons entry entries ih => exact ih (hP.resetBreaker h entry.2)

/-- What abides in the world of an orchestrator, whatever is done with it. -/
theorem uses (hP : Abiding P) {f : Floor β ρ} (h : P f.world) (l : List (Floor.Use β ρ)) :
    P (f.uses l).world := by
  -- By induction on the uses; each is a step of the floor or a move of the owner.
  induction l generalizing f with
  | nil => exact h
  | cons u l ih =>
    apply ih
    cases u with
    | step s => exact hP.step h s
    | call x => exact hP.call h x
    | collect => exact h
    | outside e => exact hP.perform (s := ⟨f.world, .empty⟩) h e
    | addBreaker b => exact hP.addBreaker _ b h
    | addBulkhead c => exact hP.addBulkhead _ c h
    | resetKey key => exact hP.resetKey h key
    | resetAll => exact hP.resetAll h
    | clear => exact hP.clear _ h

end World.Abiding

/-- The world of an orchestrator that is used from its beginning on has its instances called after
their keys. -/
theorem Floor.named_of_start {β ρ : Type} (listening : Bool) (l : List (Floor.Use β ρ)) :
    ((Floor.ofWorld (.start listening) : Floor β ρ).uses l).world.Named :=
  World.abiding_named.uses (f := Floor.ofWorld (.start listening)) ⟨nofun, nofun⟩ l

end Safeguard
