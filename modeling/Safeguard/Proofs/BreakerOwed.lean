import Safeguard.Floor
import Safeguard.Proofs.ActivityContract
import Safeguard.Proofs.ActivityReach

/-!
# The record that an admitted call owes

A call that a breaker has admitted owes it one record of how it ends, unless it panics or is
dropped. `Activity.Owes i R` says so of what is left of the call: whatever happens to it, it leaves
every breaker alone until it settles with breaker `i`, after that it does not wait any more, and it
returns what it has settled. Like `Activity.Meets` it speaks of the tree, so it holds of a call that
waits while others go on.

## Key results

- `Owes.bind`, `Owes.holding`: the combinators
- `Owes.advance`: how far a call in the background gets, and what it records on the way
-/

namespace Safeguard

/-! ## Worlds with the same breakers -/

namespace World

/-- Nothing about the breakers has changed, nor has their clock. -/
structure SameBreakers (w w' : World) : Prop where
  breakers : w'.breakers = w.breakers
  directory : w'.registry.breakers = w.registry.breakers
  clock : w'.clock = w.clock

namespace SameBreakers

variable {w w' w'' : World}

theorem refl (w : World) : w.SameBreakers w := ⟨rfl, rfl, rfl⟩

/-- Steps that leave the breakers alone do so one after the other. -/
theorem trans (h : w.SameBreakers w') (h' : w'.SameBreakers w'') : w.SameBreakers w'' :=
  ⟨h'.breakers.trans h.breakers, h'.directory.trans h.directory, h'.clock.trans h.clock⟩

theorem tell (w : World) (notices : List Notice) : w.SameBreakers (w.tell notices) :=
  ⟨rfl, rfl, rfl⟩

theorem stepBulkhead (w : World) (i : Nat) (after : Bulkhead → Bulkhead)
    (notices : Bulkhead → List Notice) : w.SameBreakers (w.stepBulkhead i after notices) := by
  unfold World.stepBulkhead
  split <;> exact ⟨rfl, rfl, rfl⟩

theorem leave (w : World) (i : Nat) : w.SameBreakers (w.leave i) := stepBulkhead w i _ _

/-- Permits that are given back do not concern the breakers, however many they are. -/
theorem leaves (w : World) (l : List Nat) : w.SameBreakers (l.foldl World.leave w) := by
  induction l generalizing w with
  | nil => exact refl w
  | cons i l ih => exact (leave w i).trans (ih _)

theorem enter (w : World) (i : Nat) : w.SameBreakers (w.enter i).2 := stepBulkhead w i _ _

/-- Nor does the lookup of a bulkhead, which may create it. -/
theorem findBulkhead (w : World) (key : String) (policy : BulkheadPolicy) :
    w.SameBreakers (w.findBulkhead key policy).2 := by
  -- Only the directory of the bulkheads grows.
  have made : w.SameBreakers (w.bulkheadAt key key policy).2 := by
    unfold World.bulkheadAt
    split
    · exact refl w
    · split <;> exact ⟨rfl, rfl, rfl⟩
  unfold World.findBulkhead
  split
  · exact refl w
  · split
    · next heq => exact heq ▸ made
    · next heq =>
      rw [heq] at made
      split
      · exact made.trans (tell _ _)
      · exact made

/-- A record does to both worlds the same. -/
theorem settle (h : w.SameBreakers w') (i : Nat) (success : Bool) :
    (w.settle i success).SameBreakers (w'.settle i success) := by
  unfold World.settle World.stepBreaker
  rw [h.breakers, h.clock]
  split
  · exact h
  · exact ⟨rfl, h.directory, rfl⟩

end SameBreakers

end World

namespace Effect

/-- An effect that does not concern the breakers. -/
def Quiet : Effect → Prop
  | findBreaker _ _ | acquire _ | settle _ _ => False
  | _ => True

/-- An effect that any attempt may have does not concern the breakers. -/
theorem Plain.quiet {e : Effect} (h : e.Plain) : e.Quiet := by
  cases e with
  | clock | invoke | conclude | tell => trivial
  | _ => exact h.elim

/-- A quiet effect leaves the breakers alone. -/
theorem Quiet.sameBreakers {e : Effect} (h : e.Quiet) (s : Scene) :
    s.world.SameBreakers (s.perform e).2.world := by
  cases e with
  | clock | invoke | conclude => exact .refl _
  | tell notice => exact .tell _ _
  | findBulkhead key policy => exact .findBulkhead _ _ _
  | enter i => exact .enter _ _
  | leave i => exact .leave _ _
  | findBreaker | acquire | settle => exact h.elim

end Effect

namespace Activity

variable {β γ δ ε ε' : Type}

/-! ## After the record -/

/-- The activity returns a result that satisfies `R`, without a wait and without concerning the
breakers. -/
inductive Closes (R : Except ε γ → Prop) : Activity β (Except ε γ) → Prop where
  | returned {result : Except ε γ} (h : R result) : Closes R (.ended (.returned result))
  | act {e : Effect} {next : e.Answer → Activity β (Except ε γ)} (he : e.Quiet)
      (h : ∀ a, Closes R (next a)) : Closes R (.act e next)

namespace Closes

variable {R : Except ε γ → Prop} {S : Except ε' δ → Prop} {x : Activity β (Except ε γ)}

/-- An activity that closes may be followed by one that does. -/
theorem bind {k : Except ε γ → Activity β (Except ε' δ)} (hx : x.Closes R)
    (hk : ∀ result, R result → (k result).Closes S) : (x.bind k).Closes S := by
  induction hx with
  | returned h => exact hk _ h
  | act he _ ih => exact .act he ih

/-- Giving a permit back on the way out does not keep an activity from closing. -/
theorem holding (i : Nat) (hx : x.Closes R) : (x.holding i).Closes R := by
  induction hx with
  | returned h => exact .act trivial fun _ => .returned h
  | act he _ ih => exact .act he ih

/-- Neither does a notice. -/
theorem telling (notices : List Notice) (hx : x.Closes R) :
    (Activity.telling notices x).Closes R := by
  induction notices with
  | nil => exact hx
  | cons notice notices ih => exact .act trivial fun _ => ih

/-- It comes to its end at once. -/
theorem reaches (hx : x.Closes R) (s : Scene) :
    ∃ result s', x.Reaches s (.ended (.returned result)) s' ∧ R result ∧
      s.world.SameBreakers s'.world := by
  -- Induction on the effects that are left; none of them waits.
  induction hx generalizing s with
  | returned h => exact ⟨_, s, .refl _ _, h, .refl _⟩
  | act he _ ih =>
    obtain ⟨result, s', hreaches, hresult, hsame⟩ := ih (s.perform _).1 (s.perform _).2
    exact ⟨result, s', .act hreaches, hresult, (he.sameBreakers s).trans hsame⟩

end Closes

/-! ## Before the record -/

/-- The activity settles with breaker `i` before it returns a result, which satisfies `R`. -/
inductive Owes (i : Nat) (R : Except ε γ → Prop) : Activity β (Except ε γ) → Prop where
  | settle {success : Bool} {next : Unit → Activity β (Except ε γ)}
      (h : (next ()).Closes fun result => result.isOk = success ∧ R result) :
      Owes i R (.act (.settle i success) next)
  | panicked (message : String) : Owes i R (.ended (.panicked message))
  | act {e : Effect} {next : e.Answer → Activity β (Except ε γ)} (he : e.Quiet)
      (h : ∀ a, Owes i R (next a)) : Owes i R (.act e next)
  | wait {w : Wait} {next : Wake β w.limit w.gated → Activity β (Except ε γ)}
      (h : ∀ wake, Owes i R (next wake)) : Owes i R (.wait w next)

namespace Owes

variable {i : Nat} {R : Except ε γ → Prop} {S : Except ε' δ → Prop} {x : Activity β (Except ε γ)}

/-- The result may be changed afterwards, as long as a value stays a value. -/
theorem bind {k : Except ε γ → Activity β (Except ε' δ)} (hx : x.Owes i R)
    (hk : ∀ result, R result → (k result).Closes fun r => r.isOk = result.isOk ∧ S r) :
    (x.bind k).Owes i S := by
  induction hx with
  | settle h =>
    -- The record is made already, so what follows must not turn a value into a fault.
    refine .settle (h.bind fun result hr => ?_)
    rw [← hr.1]
    exact hk result hr.2
  | panicked message => exact .panicked message
  | act he _ ih => exact .act he ih
  | wait _ ih => exact .wait ih

/-- A permit that is held meanwhile is given back after the record, or as a panic goes through. -/
theorem holding (j : Nat) (hx : x.Owes i R) : (x.holding j).Owes i R := by
  induction hx with
  | settle h => exact .settle (h.holding j)
  | panicked message =>
    -- A panic gives the permit back and goes on.
    exact .act trivial fun _ => .panicked message
  | act he _ ih => exact .act he ih
  | wait _ ih => exact .wait ih

/-- An operation that does not concern the breakers comes before the record. -/
theorem of_meets {α : Type} {Q : α → Prop} {y : Activity β α}
    {k : α → Activity β (Except ε γ)} (hy : y.Meets Effect.Quiet Q)
    (hk : ∀ a, Q a → (k a).Owes i R) : (y.bind k).Owes i R := by
  induction hy with
  | returned h => exact hk _ h
  | panicked message => exact .panicked message
  | act he _ ih => exact .act he ih
  | wait _ _ ih => exact .wait ih

/-- How far a call gets in the background from the world `w`. -/
inductive Gets (i : Nat) (R : Except ε γ → Prop) (w : World) :
    Pause β (Except ε γ) → World → Prop where
  /-- It waits, and owes its record still. -/
  | waiting {w' : World} {pause : Wait}
      {next : Wake β pause.limit pause.gated → Activity β (Except ε γ)} (h : w.SameBreakers w')
      (howes : ∀ wake, (next wake).Owes i R) : Gets i R w (.waiting pause next) w'
  /-- It has panicked, and there is nothing to record. -/
  | panicked {w' : World} (message : String) (h : w.SameBreakers w') :
      Gets i R w (.ended (.panicked message)) w'
  /-- It has recorded what it returns. -/
  | returned {w' : World} {result : Except ε γ} (hresult : R result)
      (h : (w.settle i result.isOk).SameBreakers w') : Gets i R w (.ended (.returned result)) w'

/-- A world in which something else was done first. -/
theorem Gets.of_sameBreakers {w w' w'' : World} {pause : Pause β (Except ε γ)}
    (h : w.SameBreakers w') (hgets : Gets i R w' pause w'') : Gets i R w pause w'' := by
  cases hgets with
  | waiting h' howes => exact .waiting (h.trans h') howes
  | panicked message h' => exact .panicked message (h.trans h')
  | returned hresult h' => exact .returned hresult ((h.settle i _).trans h')

/-- A call that runs in the background gets somewhere. -/
theorem advance (hx : x.Owes i R) (fed : List (Outcome β)) (s : Scene) :
    Gets i R s.world (x.advance fed s).1 (x.advance fed s).2.2.world := by
  -- Induction on what is owed; the scene and the outcomes that were fed change on the way.
  induction hx generalizing fed s with
  | @settle success next h =>
    -- From the record on it goes to its end without a wait.
    obtain ⟨result, s', hreaches, ⟨rfl, hr⟩, hsame⟩ :=
      h.reaches { s with world := s.world.settle i success }
    have hadvance : (Activity.act (.settle i result.isOk) next).advance fed s =
        (.ended (.returned result), fed, s') := hreaches.advance_eq fed
    rw [hadvance]
    exact .returned hr hsame
  | panicked message => exact .panicked message (.refl _)
  | @act e next he _ ih =>
    have hrest := ih (s.perform e).1 fed (s.perform e).2
    exact hrest.of_sameBreakers (he.sameBreakers s)
  | @wait w next h ih =>
    cases fed with
    | nil => exact .waiting (.refl _) h
    | cons outcome fed =>
      unfold Activity.advance
      -- Only a gate takes an outcome that was fed before.
      split
      · exact ih _ fed s
      · exact .waiting (.refl _) h

end Owes

end Activity

end Safeguard
