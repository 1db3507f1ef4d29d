import Safeguard.Floor
import Safeguard.Proofs.ActivityRun

/-!
# What an activity does before it waits

`Activity.Reaches x s y s'` says that `x`, begun in the scene `s`, has become `y` after some
effects, and the scene has become `s'`. No time passes meanwhile and nothing else has a turn, so a
call may be followed so far in the same way whether it runs in the foreground or in the background.

## Key results

- `Reaches.bind`, `Reaches.holding`: the combinators
- `Reaches.advance_eq`, `Reaches.foreground_eq`: a call in the background and in the foreground
-/

namespace Safeguard

namespace Activity

variable {β α γ : Type}

/-- The activity `x` in the scene `s` becomes `y` in the scene `s'` by effects alone. -/
inductive Reaches : Activity β α → Scene → Activity β α → Scene → Prop where
  | refl (x : Activity β α) (s : Scene) : Reaches x s x s
  | act {e : Effect} {next : e.Answer → Activity β α} {y : Activity β α} {s s' : Scene}
      (h : Reaches (next (s.perform e).1) (s.perform e).2 y s') : Reaches (.act e next) s y s'

namespace Reaches

variable {x y z : Activity β α} {s s' s'' : Scene}

/-- One stretch after another. -/
theorem trans (h : x.Reaches s y s') (h' : y.Reaches s' z s'') : x.Reaches s z s'' := by
  induction h with
  | refl => exact h'
  | act _ ih => exact .act (ih h')

/-- An effect with its answer known. -/
theorem answered {e : Effect} {next : e.Answer → Activity β α} {a : e.Answer}
    (he : (s.perform e).1 = a) (h : (next a).Reaches (s.perform e).2 y s') :
    (Activity.act e next).Reaches s y s' := by
  subst he
  exact .act h

/-- What follows later does not matter. -/
theorem bind (k : α → Activity β γ) (h : x.Reaches s y s') :
    (x.bind k).Reaches s (y.bind k) s' := by
  induction h with
  | refl => exact .refl _ _
  | act _ ih => exact .act ih

/-- What an activity reaches, it reaches while it holds a permit. -/
theorem holding (i : Nat) (h : x.Reaches s y s') : (x.holding i).Reaches s (y.holding i) s' := by
  induction h with
  | refl => exact .refl _ _
  | act _ ih => exact .act ih

/-- An activity that tells something at first reaches what follows. -/
theorem telling (notices : List Notice) (x : Activity β α) (s : Scene) :
    (Activity.telling notices x).Reaches s x { s with world := s.world.tell notices } := by
  induction notices generalizing s with
  | nil => simpa [Activity.telling] using refl x s
  | cons notice notices ih =>
    -- The first notice is told in the old world, the others in one that has heard it.
    have hrest := ih { s with world := s.world.tell [notice] }
    rw [World.tell_tell] at hrest
    exact .act hrest

/-- A run goes on from what it has reached. -/
theorem run_eq (h : x.Reaches s y s') : x.run s = y.run s' := by
  induction h with
  | refl => rfl
  | act _ ih => exact ih

/-- A call in the background goes on from what it has reached. -/
theorem advance_eq (h : x.Reaches s y s') (fed : List (Outcome β)) :
    x.advance fed s = y.advance fed s' := by
  induction h with
  | refl => rfl
  | act _ ih => exact ih

/-- A call in the foreground goes on from what it has reached. -/
theorem foreground_eq (h : x.Reaches s y s') (f : Floor β α) :
    Floor.foreground x s.record { f with world := s.world } =
      Floor.foreground y s'.record { f with world := s'.world } := by
  induction h with
  | refl => rfl
  | act _ ih => exact ih

/-- A call in the background that ends at once is reported at once. -/
theorem start_eq {f : Floor β α} {ending : Ending α}
    (h : x.Reaches ⟨f.world, .empty⟩ (.ended ending) s) (id : String) :
    f.start id x = ({ f with world := s.world } : Floor β α).complete id
      (s.record.report f.world.now s.world.now (some ending)) := by
  unfold Floor.start Floor.advance
  rw [h.advance_eq]
  rfl

/-- A call in the background can be made from what it has reached, as no time has passed. -/
theorem start_congr {f : Floor β α} {w : World} (h : x.Reaches ⟨f.world, .empty⟩ y ⟨w, .empty⟩)
    (hnow : w.now = f.world.now) (id : String) :
    f.start id x = ({ f with world := w } : Floor β α).start id y := by
  unfold Floor.start Floor.advance
  -- Only the time of the beginning is read off the floor, and it is the same.
  rw [h.advance_eq]
  simp only [hnow]

end Reaches

end Activity

end Safeguard
