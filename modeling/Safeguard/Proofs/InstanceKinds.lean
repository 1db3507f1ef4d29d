import Safeguard.Proofs.InstanceShelf
import Safeguard.Proofs.LayerResolution
import Safeguard.Proofs.WorldLasting

/-!
# Kinds of instances

A registry keeps breakers and bulkheads in the same way and apart from each other, so what is said
of the one kind is said of the other. `World.getOrCreate` asks for the instance under a key, with
any creator: the creator may do something of its own, may make any instance, and may fail.

The instances of a kind make up a shelf (`World.stock`), and what they keep, their names and their
policies, makes up another one (`World.shelf`). Lookups put instances there, one way for both kinds
and for calls; nothing else that is done to the world changes the latter.

## Key results

- `breakerAt_eq`, `bulkheadAt_eq`: the registry's own functions are the same for both kinds
- `stock_asked`, `Registers.stock_eq`: what lookups and calls deliver
- `mem_listing_iff`: what a listing holds
-/

namespace Safeguard

/-- The kinds of instances that a registry keeps. -/
inductive Kind where
  | breaker
  | bulkhead
deriving DecidableEq

namespace Kind

/-- The instances of a kind. -/
abbrev Instance : Kind → Type
  | breaker => Breaker
  | bulkhead => Bulkhead

/-- The policies of a kind. -/
abbrev Policy : Kind → Type
  | breaker => BreakerPolicy
  | bulkhead => BulkheadPolicy

/-- What an instance keeps: its name and its policy. -/
def label : (k : Kind) → k.Instance → String × k.Policy
  | breaker, b => (b.name, b.policy)
  | bulkhead, b => (b.name, b.policy)

end Kind

namespace World

variable (w : World)

/-- The keys of the registered instances of a kind, with their numbers. -/
def directory : Kind → Directory
  | .breaker => w.registry.breakers
  | .bulkhead => w.registry.bulkheads

/-- The instances of a kind that were made so far, by number. -/
def made : (k : Kind) → List k.Instance
  | .breaker => w.breakers
  | .bulkhead => w.bulkheads

/-- The instance of a kind under a key. -/
def at? (k : Kind) (key : String) : Option k.Instance :=
  ((w.directory k).find? key).bind ((w.made k)[·]?)

/-- Every registered instance of a kind, in the order of the keys. -/
def listing : (k : Kind) → List (String × k.Instance)
  | .breaker => w.breakersByKey
  | .bulkhead => w.bulkheadsByKey

/-- The world with one more instance, registered under a key. -/
def register : (k : Kind) → String → k.Instance → World
  | .breaker, key, b =>
    let (i, w) := w.addBreaker b
    let registry := { w.registry with breakers := w.registry.breakers.insert key i }
    { w with registry }.tell [registered "circuit breaker" key]
  | .bulkhead, key, b =>
    let (i, w) := w.addBulkhead b
    let registry := { w.registry with bulkheads := w.registry.bulkheads.insert key i }
    { w with registry }.tell [registered "bulkhead" key]

/-- What becomes of that which a creator has made for a key: an instance is registered and answered
by its number, and a failure is answered as it is. -/
def enrol {ε : Type} (k : Kind) (key : String) : Except ε k.Instance → Except ε Nat × World
  | .error e => (.error e, w)
  | .ok a => (.ok (w.made k).length, w.register k key a)

/-- The instance of a kind under a key. If there is none, the creator is run for it. -/
def getOrCreate {m : Type → Type} [Monad m] {ε : Type} (k : Kind) (key : String)
    (create : m (Except ε k.Instance)) : m (Except ε Nat × World) :=
  match (w.directory k).find? key with
  | some i => pure (.ok i, w)
  | none => do return w.enrol k key (← create)

/-- What is asked for with a creator that does nothing but make an instance, or fail. -/
def asked {ε : Type} (k : Kind) (key : String) (created : Except ε k.Instance) :
    Except ε Nat × World :=
  Id.run (w.getOrCreate k key (pure created))

/-- The instances of a kind as a shelf. -/
def stock (k : Kind) : Shelf k.Instance := ⟨w.directory k, w.made k⟩

/-- What an instance keeps is its label: the shelf of a kind. -/
def shelf (k : Kind) : Shelf (String × k.Policy) := (w.stock k).map k.label

variable {w : World}

theorem at?_breaker (key : String) : w.at? .breaker key = w.breaker? key := rfl

/-- The breaker under a key, with the creator that makes one of a given name and policy. -/
theorem breakerAt_eq (key name : String) (policy : BreakerPolicy) :
    w.breakerAt key name policy = w.asked .breaker key (Breaker.make name policy) := by
  simp only [breakerAt, asked, getOrCreate, directory]
  cases w.registry.breakers.find? key with
  | some i => rfl
  | none => cases Breaker.make name policy <;> rfl

/-- The bulkhead under a key, with the creator that makes one of a given name and policy. -/
theorem bulkheadAt_eq (key name : String) (policy : BulkheadPolicy) :
    w.bulkheadAt key name policy = w.asked .bulkhead key (Bulkhead.make name policy) := by
  simp only [bulkheadAt, asked, getOrCreate, directory]
  cases w.registry.bulkheads.find? key with
  | some i => rfl
  | none => cases Bulkhead.make name policy <;> rfl

/-! ## Asking for an instance -/

variable {k k' : Kind} {key : String} {i : Nat} {ε : Type}

/-- An instance that is there is answered, and no creator is run. -/
theorem getOrCreate_of_some {m : Type → Type} [Monad m] (h : (w.directory k).find? key = some i)
    (create : m (Except ε k.Instance)) : w.getOrCreate k key create = pure (.ok i, w) := by
  simp only [getOrCreate, h]

/-- The creator is run if no instance is there. -/
theorem getOrCreate_of_none {m : Type → Type} [Monad m] (h : (w.directory k).find? key = none)
    (create : m (Except ε k.Instance)) :
    w.getOrCreate k key create = do return w.enrol k key (← create) := by
  simp only [getOrCreate, h]

/-- An instance that is there is answered, whatever the creator would have made. -/
private theorem asked_of_some (h : (w.directory k).find? key = some i)
    (created : Except ε k.Instance) :
    w.asked k key created = (.ok i, w) := by
  rw [asked, getOrCreate_of_some h]
  rfl

/-- If no instance is there, what the creator has made is registered. -/
theorem asked_of_none (h : (w.directory k).find? key = none) (created : Except ε k.Instance) :
    w.asked k key created = w.enrol k key created := by
  rw [asked, getOrCreate_of_none h]
  rfl

/-- A new instance gets the next number. -/
private theorem directory_register (a : k.Instance) :
    (w.register k key a).directory k = (w.directory k).insert key (w.made k).length := by
  cases k <;> rfl

/-- It comes after the others of its kind. -/
private theorem made_register (a : k.Instance) : (w.register k key a).made k = w.made k ++ [a] := by
  cases k <;> rfl

/-- An instance of another kind leaves the kind as it is. -/
private theorem directory_register_of_ne (h : k' ≠ k) (a : k'.Instance) :
    (w.register k' key a).directory k = w.directory k := by
  cases k <;> cases k' <;> first | rfl | exact absurd rfl h

/-- No instance of the kind is made. -/
private theorem made_register_of_ne (h : k' ≠ k) (a : k'.Instance) :
    (w.register k' key a).made k = w.made k := by
  cases k <;> cases k' <;> first | rfl | exact absurd rfl h

/-- A new instance is under its key. -/
theorem at?_register (a : k.Instance) : (w.register k key a).at? k key = some a := by
  rw [at?, directory_register, Directory.find?_insert_self, made_register]
  exact List.getElem?_concat_length

/-- What is asked of one kind leaves the other kind as it is. -/
theorem asked_of_ne (w : World) (h : k' ≠ k) (key : String) (created : Except ε k'.Instance) :
    (w.asked k' key created).2.directory k = w.directory k ∧
      (w.asked k' key created).2.made k = w.made k := by
  cases hfind : (w.directory k').find? key with
  | some i =>
    rw [asked_of_some hfind]
    exact ⟨rfl, rfl⟩
  | none =>
    rw [asked_of_none hfind]
    -- Something new is put in its own directory and its own list.
    cases created with
    | error e => exact ⟨rfl, rfl⟩
    | ok a => exact ⟨directory_register_of_ne h a, made_register_of_ne h a⟩

/-! ## Shelves -/

/-- A kind has as many labels as instances. -/
theorem shelf_labels_length : (w.shelf k).labels.length = (w.made k).length :=
  List.length_map _

theorem at?_eq : w.at? k key = (w.stock k).at? key := rfl

/-- What a lookup delivers: an instance, unless its creator fails. -/
theorem stock_asked (created : Except ε k.Instance) :
    (w.asked k key created).2.stock k = (w.stock k).receive id (.ofCreated key created) := by
  -- If something is under the key the creator is not run, and the delivery is not taken either.
  cases hfind : (w.directory k).find? key with
  | some i =>
    have hsame (a : k.Instance) : (w.stock k).offer key a = w.stock k := by
      simp only [Shelf.offer, stock, hfind]
    rw [asked_of_some hfind]
    cases created with
    | error e => rfl
    | ok a => exact (hsame a).symm
  | none =>
    rw [asked_of_none hfind]
    cases created with
    | error e => rfl
    | ok a =>
      have hfind' : (w.stock k).directory.find? key = none := hfind
      show (w.register k key a).stock k = (w.stock k).offer key a
      rw [Shelf.offer_of_none hfind', stock, directory_register, made_register]
      rfl

/-- Lookups of another kind deliver nothing. -/
theorem stock_asked_of_ne (h : k' ≠ k) (created : Except ε k'.Instance) :
    (w.asked k' key created).2.stock k = w.stock k := by
  obtain ⟨hdirectory, hmade⟩ := asked_of_ne w h key created
  rw [stock, hdirectory, hmade, stock]

/-- Clearing the registry clears the shelves of both kinds. -/
theorem stock_clearRegistry : w.clearRegistry.stock k = (w.stock k).receive id .clear := by
  cases k <;> rfl

/-- Notices leave the shelves alone. -/
theorem shelf_tell (notices : List Notice) : (w.tell notices).shelf k = w.shelf k := by
  cases k <;> rfl

/-- A breaker that moves keeps its label. -/
theorem shelf_stepBreaker (i : Nat) {after : Breaker → Breaker}
    (hname : ∀ b, (after b).name = b.name) (hpolicy : ∀ b, (after b).policy = b.policy)
    (notices : Breaker → List Notice) : (w.stepBreaker i after notices).shelf k = w.shelf k := by
  cases k with
  | bulkhead =>
    simp only [shelf, stock, Shelf.map, directory, made, registry_stepBreaker,
      bulkheads_stepBreaker]
  | breaker =>
    simp only [shelf, stock, Shelf.map, directory, made, registry_stepBreaker]
    congr 1
    -- The lists of labels are compared entry by entry, as only one breaker has moved.
    refine List.ext_getElem? fun j => ?_
    simp only [List.getElem?_map, breakers_stepBreaker]
    split
    · rw [Option.map_map]
      exact congrArg (Option.map · _) (funext fun b => Prod.ext (hname b) (hpolicy b))
    · rfl

/-- A bulkhead that moves keeps its label. -/
theorem shelf_stepBulkhead (i : Nat) {after : Bulkhead → Bulkhead}
    (hname : ∀ b, (after b).name = b.name) (hpolicy : ∀ b, (after b).policy = b.policy)
    (notices : Bulkhead → List Notice) : (w.stepBulkhead i after notices).shelf k = w.shelf k := by
  cases k with
  | breaker =>
    simp only [shelf, stock, Shelf.map, directory, made, registry_stepBulkhead,
      (SameBreakers.stepBulkhead w i after notices).breakers]
  | bulkhead =>
    simp only [shelf, stock, Shelf.map, directory, made, registry_stepBulkhead]
    congr 1
    refine List.ext_getElem? fun j => ?_
    simp only [List.getElem?_map, bulkheads_stepBulkhead]
    split
    · rw [Option.map_map]
      exact congrArg (Option.map · _) (funext fun b => Prod.ext (hname b) (hpolicy b))
    · rfl

/-! ## Listings -/

/-- A listing is read off the directory, entry by entry. -/
private theorem listing_eq : w.listing k = (w.directory k).entries.filterMap
    fun e => ((w.made k)[e.2]?).map (e.1, ·) := by
  cases k <;> rfl

/-- An entry of a list with its keys in order is what a lookup finds. -/
theorem lookup_eq_some_iff {entries : List (String × Nat)} (h : entries.Pairwise (·.1 < ·.1)) :
    entries.lookup key = some i ↔ (key, i) ∈ entries := by
  induction entries with
  | nil => simp
  | cons e rest ih =>
    obtain ⟨hfirst, hrest⟩ := List.pairwise_cons.1 h
    obtain ⟨first, j⟩ := e
    -- The keys are in order, so a key that is found first does not come again.
    by_cases hkey : key = first
    · subst hkey
      have hnot : (key, i) ∉ rest := fun hmem => absurd (hfirst _ hmem) (String.lt_irrefl key)
      rw [List.lookup_cons_self, List.mem_cons, or_iff_left hnot, Option.some.injEq,
        Prod.mk.injEq]
      exact ⟨fun hj => ⟨rfl, hj.symm⟩, fun hj => hj.2.symm⟩
    · have hne : (key == first) = false := by simpa using hkey
      have hother : (key, i) ≠ (first, j) := fun heq => hkey (congrArg Prod.fst heq)
      rw [List.lookup_cons, hne, List.mem_cons, or_iff_right hother]
      exact ih hrest

/-- A listing holds the instances that lookups find, under their keys. -/
theorem mem_listing_iff {a : k.Instance} : (key, a) ∈ w.listing k ↔ w.at? k key = some a := by
  rw [listing_eq, List.mem_filterMap, at?, Option.bind_eq_some_iff]
  constructor
  -- An entry of the directory with the instance that has its number.
  · rintro ⟨⟨key', i⟩, hmem, heq⟩
    obtain ⟨a', ha, heq⟩ := Option.map_eq_some_iff.1 heq
    obtain ⟨rfl, rfl⟩ : key' = key ∧ a' = a := by simpa using heq
    exact ⟨i, (lookup_eq_some_iff (w.directory k).sorted).2 hmem, ha⟩
  · rintro ⟨i, hfind, ha⟩
    exact ⟨(key, i), (lookup_eq_some_iff (w.directory k).sorted).1 hfind, by simp [ha]⟩

/-- The keys of a listing are in order, each once. -/
theorem listing_sorted : ((w.listing k).map (·.1)).Pairwise (· < ·) := by
  rw [listing_eq, List.pairwise_map]
  refine List.Pairwise.filterMap _ ?_ (w.directory k).sorted
  intro e e' hlt p hp p' hp'
  obtain ⟨a, -, rfl⟩ := Option.map_eq_some_iff.1 hp
  obtain ⟨a', -, rfl⟩ := Option.map_eq_some_iff.1 hp'
  exact hlt

end World

/-! ## What a call delivers -/

/-- What a call delivers to the shelf of a kind before it does anything else: an instance of its own
policy under the key of its name, if it asks for the kind and the policy is in order. A call does
not come to its breaker if the policy of its bulkhead is refused. -/
def Options.delivers (o : Options) (name : String) : (k : Kind) → Delivery k.Instance
  | .bulkhead => (o.bulkhead.filter (·.validate.isOk)).elim .nothing fun p =>
    .offer (bulkheadKey name) (.fresh (bulkheadKey name) p)
  | .breaker =>
    if (faultOf BulkheadPolicy.validate o.bulkhead).isSome then .nothing
    else (o.breaker.filter (·.validate.isOk)).elim .nothing fun p =>
      .offer (breakerKey name) (.fresh (breakerKey name) p)

/-- A call does not clear a shelf. -/
theorem Options.clears_delivers (o : Options) (name : String) (k : Kind) :
    (o.delivers name k).clears = false := by
  have hasked {π α : Type} (asked : Option π) (key : String) (fresh : π → α) :
      (asked.elim .nothing fun p => Delivery.offer key (fresh p)).clears = false := by
    cases asked <;> rfl
  cases k with
  | bulkhead => exact hasked _ _ _
  | breaker =>
    unfold delivers
    split
    · rfl
    · exact hasked _ _ _

/-- A call that asks for a bulkhead offers one of its policy. -/
theorem Options.delivers_bulkhead {o : Options} {name : String} {p : BulkheadPolicy}
    (hvalid : o.Valid) (h : o.bulkhead = some p) :
    o.delivers name .bulkhead = .offer (bulkheadKey name) (.fresh (bulkheadKey name) p) := by
  have hp : p.validate.isOk = true := by rw [hvalid.bulkhead p h]; rfl
  simp [delivers, h, Option.filter_some, hp]

/-- A call that asks for a breaker offers one of its policy. -/
theorem Options.delivers_breaker {o : Options} {name : String} {p : BreakerPolicy}
    (hvalid : o.Valid) (h : o.breaker = some p) :
    o.delivers name .breaker = .offer (breakerKey name) (.fresh (breakerKey name) p) := by
  have hp : p.validate.isOk = true := by rw [hvalid.breaker p h]; rfl
  have hbulkhead : faultOf BulkheadPolicy.validate o.bulkhead = .none :=
    faultOf_eq_none_iff.2 hvalid.bulkhead
  simp [delivers, h, Option.filter_some, hp, hbulkhead]

/-- A policy delivers an instance if it is in order, which is put on a shelf if nothing is under the
key. -/
private theorem Shelf.receive_elim {π α τ : Type} (label : α → τ) (fresh : π → α)
    {validate : π → Bool} {s : Shelf τ} {key : String} (asked : Option π) :
    s.receive label ((asked.filter validate).elim .nothing fun p => .offer key (fresh p)) =
      match asked.filter fun p => validate p && (s.directory.find? key).isNone with
      | none => s
      | some p => ⟨s.directory.insert key s.labels.length, s.labels ++ [label (fresh p)]⟩ := by
  cases asked with
  | none => rfl
  | some p =>
    cases hvalid : validate p with
    | false => simp [Option.filter_some, hvalid, Shelf.receive]
    | true =>
      cases hfind : s.directory.find? key <;>
        simp [Option.filter_some, hvalid, hfind, Shelf.receive, Shelf.offer]

/-- What a call delivers is what it registers. -/
theorem World.Registers.stock_eq {name : String} {options : Options} {w w' : World}
    (h : Registers name (w.madeBulkhead name options.bulkhead)
      (Orchestrator.breakerMade name options w) w w') (k : Kind) :
    w'.stock k = (w.stock k).receive id (options.delivers name k) := by
  cases k with
  | bulkhead =>
    simp only [Options.delivers, Shelf.receive_elim]
    simp only [stock, directory, made, h.bulkheadDirectory, h.bulkheads, madeBulkhead]
    split <;> next heq => simp [heq]
  | breaker =>
    simp only [Options.delivers]
    simp only [stock, directory, made, h.breakerDirectory, h.breakers, Orchestrator.breakerMade]
    split
    · simp [Shelf.receive]
    · simp only [Shelf.receive_elim, madeBreaker]
      split <;> next heq => simp [heq]

end Safeguard
