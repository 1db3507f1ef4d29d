import Mathlib.Data.List.Perm.Basic
import Safeguard.Proofs.BreakerSignals
import Safeguard.Proofs.InstanceKinds
import Safeguard.Proofs.WorldAlike

/-!
# Resetting every breaker

All registered breakers are reset one after another, in the order of their keys. No two keys share a
breaker, so the resets do not meet: the breakers that come out and what each one lets the world know
can be told from the world before the first reset. Hence the order does not matter but for the order
of the signals, and breakers that were reset have nothing more to tell when they are reset again.

## Key results

- `World.foldl_resetBreaker`: many resets at once
- `World.resetKeys_eq`, `World.Named.resetAll_eq`: what is left of the resets by key, and of all
- `World.Named.signals_resets`: what resets signal
- `Floor.every_breaker_renewed`: the state after a reset of all breakers
-/

namespace Safeguard

/-- A breaker that was reset is not changed by another reset. -/
@[simp] theorem Breaker.reset_reset (b : Breaker) : b.reset.reset = b.reset := rfl

namespace World

variable {w : World} {i : Nat} {ns : List Nat}

/-! ## Many resets at once -/

/-- The world in which the breakers with given numbers are reset, and nobody was told. -/
def renewed (w : World) (ns : List Nat) : World :=
  { w with breakers := w.breakers.mapIdx fun i b => if i ∈ ns then b.reset else b }

/-- What the breaker with a number lets the world know when it is reset, if there is one. -/
def resetNotices (w : World) (i : Nat) : List Notice := (w.breakers[i]?).elim [] (·.resetNotices)

/-- One breaker after the resets. -/
private theorem getElem?_renewed (w : World) (ns : List Nat) (i : Nat) :
    (w.renewed ns).breakers[i]? =
      (w.breakers[i]?).map fun b => if i ∈ ns then b.reset else b := by
  rw [renewed, List.getElem?_mapIdx]

/-- The breakers after the resets may be given in any way that is right for each number. -/
private theorem renewed_eq {l : List Breaker}
    (h : ∀ i, l[i]? = (w.breakers[i]?).map fun b => if i ∈ ns then b.reset else b) :
    w.renewed ns = { w with breakers := l } := by
  have hbreakers : (w.renewed ns).breakers = l :=
    List.ext_getElem? fun i => by rw [getElem?_renewed, h]
  rw [← hbreakers]
  rfl

@[simp] theorem renewed_nil (w : World) : w.renewed [] = w := renewed_eq fun i => by simp

/-- What is reset once more is reset. -/
private theorem renewed_renewed (w : World) (ns ms : List Nat) :
    (w.renewed ns).renewed ms = w.renewed (ns ++ ms) := by
  -- Both sides are the same list of breakers, compared entry by entry.
  have hboth : w.renewed (ns ++ ms) =
      { w with breakers := ((w.renewed ns).renewed ms).breakers } := by
    refine renewed_eq fun i => ?_
    rw [getElem?_renewed, getElem?_renewed, Option.map_map]
    congr 1
    funext b
    by_cases hns : i ∈ ns <;> by_cases hms : i ∈ ms <;> simp [hns, hms]
  rw [hboth]
  rfl

/-- The order of the numbers does not matter, nor how often each is there. -/
private theorem renewed_congr {ms : List Nat} (h : ∀ i, i ∈ ms ↔ i ∈ ns) :
    w.renewed ms = w.renewed ns := by
  simp only [renewed, h]

/-- What is told meanwhile does not concern the breakers. -/
private theorem renewed_tell (notices : List Notice) :
    (w.tell notices).renewed ns = (w.renewed ns).tell notices := rfl

/-- A breaker that was not reset has the same to tell as before. -/
private theorem resetNotices_renewed (h : i ∉ ns) :
    (w.renewed ns).resetNotices i = w.resetNotices i := by
  simp [resetNotices, getElem?_renewed, h]

/-- One reset. -/
private theorem resetBreaker_eq (w : World) (i : Nat) :
    w.resetBreaker i = (w.renewed [i]).tell (w.resetNotices i) := by
  cases hb : w.breakers[i]? with
  | none =>
    -- There is no such breaker, and nothing happens.
    have hsame : w.renewed [i] = w := renewed_eq fun j => by
      by_cases hj : j = i <;> simp [hj, hb]
    simp [resetBreaker, stepBreaker, resetNotices, hb, hsame]
  | some b =>
    have hset : w.renewed [i] = { w with breakers := w.breakers.set i b.reset } :=
      renewed_eq fun j => by
        obtain ⟨hi, -⟩ := List.getElem?_eq_some_iff.1 hb
        -- The list is changed at this number and nowhere else.
        by_cases hj : j = i
        · rw [hj, List.getElem?_set_self hi, hb]
          simp
        · simp [hj, List.getElem?_set_ne (Ne.symm hj)]
    simp only [resetBreaker, stepBreaker, resetNotices, hb, hset]
    rfl

/-- Resets of different breakers do not meet: they can be done at once, and what each one lets the
world know can be told at the beginning. Something may be said after each one. -/
theorem foldl_resetBreaker {ι : Type} (number : ι → Nat) (more : ι → List Notice) {l : List ι}
    (hl : (l.map number).Nodup) (w : World) :
    l.foldl (fun w x => (w.resetBreaker (number x)).tell (more x)) w =
      (w.renewed (l.map number)).tell
        (l.flatMap fun x => w.resetNotices (number x) ++ more x) := by
  -- Induction on the resets that are left, each from the world that the one before it has left.
  induction l generalizing w with
  | nil => simp
  | cons x l ih =>
    obtain ⟨hx, hrest⟩ := List.nodup_cons.1 hl
    -- The first reset is that of another breaker, so the later ones say what they would have said
    -- before it.
    have hothers : (l.flatMap fun y =>
        ((w.resetBreaker (number x)).tell (more x)).resetNotices (number y) ++ more y) =
        l.flatMap fun y => w.resetNotices (number y) ++ more y := by
      refine List.flatMap_congr fun y hy => ?_
      have hne : number y ∉ [number x] := by
        simpa using fun heq : number y = number x => hx (heq ▸ List.mem_map_of_mem hy)
      rw [resetBreaker_eq]
      exact congrArg (· ++ more y) (resetNotices_renewed hne)
    rw [List.foldl_cons, ih hrest, hothers, resetBreaker_eq, tell_tell, renewed_tell, tell_tell,
      renewed_renewed]
    rfl

/-! ## The registered breakers -/

/-- Resets the breakers under keys, one after another; says of each key whether there was one. -/
def resetKeys (w : World) : List String → List Bool × World
  | [] => ([], w)
  | key :: keys =>
    let (found, w) := w.resetKey key
    let (answers, w) := w.resetKeys keys
    (found :: answers, w)

/-- The keys of the registered breakers, in order. -/
def breakerKeys (w : World) : List String := w.breakersByKey.map (·.1)

/-- What the resets of the breakers under keys signal: that each one that is not closed is closed
now, under its key. -/
def closings (w : World) (keys : List String) : List Signal :=
  (keys.filter fun key => (w.breaker? key).any (·.state ≠ .closed)).map (.stateChange · .closed)

/-- The log line of a reset under a key. -/
def resetByOperator (key : String) : Notice :=
  .log .info "Circuit breaker reset by operator" [("key", .text key)]

variable {l : List (String × Nat)}

/-- The entries of the registry are what it finds. -/
private theorem mem_entries_iff {e : String × Nat} :
    e ∈ w.registry.breakers.entries ↔ w.registry.breakers.find? e.1 = some e.2 :=
  (lookup_eq_some_iff w.registry.breakers.sorted).symm

/-- A key is listed if there is a breaker under it. -/
private theorem mem_breakerKeys_iff {key : String} :
    key ∈ w.breakerKeys ↔ (w.breaker? key).isSome := by
  have hlisted (b : Breaker) : (key, b) ∈ w.breakersByKey ↔ w.breaker? key = some b :=
    mem_listing_iff (k := .breaker)
  simp [breakerKeys, hlisted, Option.isSome_iff_exists]

/-- The breakers under keys are reset. -/
theorem resetKeys_eq (h : ∀ e ∈ l, w.registry.breakers.find? e.1 = some e.2)
    (hl : (l.map (·.2)).Nodup) :
    w.resetKeys (l.map (·.1)) = (l.map fun _ => true, (w.renewed (l.map (·.2))).tell
      (l.flatMap fun e => w.resetNotices e.2 ++ [resetByOperator e.1])) := by
  rw [← foldl_resetBreaker Prod.snd (fun e => [resetByOperator e.1]) hl]
  clear hl
  induction l generalizing w with
  | nil => rfl
  | cons e l ih =>
    obtain ⟨hfirst, hrest⟩ := List.forall_mem_cons.1 h
    have hkey : w.resetKey e.1 = (true, (w.resetBreaker e.2).tell [resetByOperator e.1]) := by
      simp only [resetKey, hfirst]
      rfl
    -- A reset does not register anything, so the keys that are left are found as before.
    have hregistry : ((w.resetBreaker e.2).tell [resetByOperator e.1]).registry = w.registry :=
      registry_stepBreaker ..
    rw [List.map_cons, resetKeys, hkey]
    dsimp only
    rw [ih fun e he => by rw [hregistry]; exact hrest e he]
    rfl

namespace Named

/-- Every key has a breaker of its own. -/
private theorem nodup_numbers (h : w.Named) : (w.registry.breakers.entries.map (·.2)).Nodup := by
  rw [List.Nodup, List.pairwise_map]
  refine w.registry.breakers.sorted.imp_of_mem fun {e e'} he he' hlt heq => ?_
  have hne : e.1 ≠ e'.1 := fun hkey => String.lt_irrefl e'.1 (hkey ▸ hlt)
  exact h.breakers.find?_ne hne (heq ▸ mem_entries_iff.1 he) (mem_entries_iff.1 he')

/-- No entry of the registry is missing in the listing. -/
private theorem breakerKeys_eq (h : w.Named) :
    w.breakerKeys = w.registry.breakers.entries.map (·.1) := by
  rw [breakerKeys, breakersByKey, List.map_filterMap, ← List.filterMap_eq_map]
  refine List.filterMap_congr fun e he => ?_
  obtain ⟨b, hb, -⟩ := h.breaker e.1 e.2 (mem_entries_iff.1 he)
  simp [hb]

/-- All registered breakers are reset. -/
theorem resetAll_eq (h : w.Named) :
    let entries := w.registry.breakers.entries
    w.resetAll = (w.renewed (entries.map (·.2))).tell
      ((entries.flatMap fun e => w.resetNotices e.2) ++
        [.log .info "All circuit breakers reset" [("count", .number entries.length)]]) := by
  intro entries
  have hfold := foldl_resetBreaker Prod.snd (fun _ => []) h.nodup_numbers w
  simp only [tell_nil, List.append_nil] at hfold
  rw [resetAll, hfold, tell_tell]

/-- A reset signals that the breaker is closed, under its key, unless it was closed before. -/
theorem signals_resetNotices (h : w.Named) {key : String}
    (hi : w.registry.breakers.find? key = some i) :
    Notice.signals (w.resetNotices i) = w.closings [key] := by
  obtain ⟨b, hb, hname⟩ := h.breaker key i hi
  have hfound : w.breaker? key = some b := by simp [breaker?, hi, hb]
  simp only [resetNotices, hb, Option.elim_some, Breaker.signals_resetNotices, hname, closings,
    List.filter_cons, hfound, List.filter_nil]
  by_cases hstate : b.state = .closed <;> simp [hstate]

/-- What resets of registered breakers signal, whatever is logged in between. -/
theorem signals_resets (h : w.Named) (hl : ∀ e ∈ l, w.registry.breakers.find? e.1 = some e.2)
    (more : String × Nat → List Notice) (hmore : ∀ e, Notice.signals (more e) = []) :
    Notice.signals (l.flatMap fun e => w.resetNotices e.2 ++ more e) =
      w.closings (l.map (·.1)) := by
  induction l with
  | nil => rfl
  | cons e l ih =>
    obtain ⟨hfirst, hrest⟩ := List.forall_mem_cons.1 hl
    -- What one key signals stands in front of what the others do.
    have hsplit : w.closings ((e :: l).map (·.1)) =
        w.closings [e.1] ++ w.closings (l.map (·.1)) := by
      rw [closings, closings, closings, ← List.map_append, ← List.filter_append]
      rfl
    rw [List.flatMap_cons, Notice.signals_append, Notice.signals_append, hmore, List.append_nil,
      ih hrest, h.signals_resetNotices hfirst, hsplit]

/-- Any order of the keys is one of the entries. -/
private theorem exists_entries (h : w.Named) {keys : List String}
    (hkeys : keys.Perm w.breakerKeys) :
    ∃ l : List (String × Nat), l.map (·.1) = keys ∧ l.Perm w.registry.breakers.entries := by
  rw [h.breakerKeys_eq] at hkeys
  -- The keys stand to the entries as the keys of the entries do, but for the order.
  have hsame : List.Forall₂ (fun key e => key = e.1) (w.registry.breakers.entries.map (·.1))
      w.registry.breakers.entries :=
    List.forall₂_map_left_iff.2 (List.forall₂_same.2 fun _ _ => rfl)
  obtain ⟨l, hl, hperm⟩ := List.perm_comp_forall₂ hkeys hsame
  rw [← List.forall₂_map_right_iff, List.forall₂_eq_eq_eq] at hl
  exact ⟨l, hl.symm, hperm⟩

/-! ## All of them -/

/-- The registered breakers are reset, and nothing else happens but that this is told. -/
private theorem forget_resetAll (h : w.Named) :
    w.resetAll.forget = w.forget.renewed (w.registry.breakers.entries.map (·.2)) := by
  rw [h.resetAll_eq]
  rfl

/-- A breaker after the reset of all, by its number. -/
private theorem breakers_resetAll (h : w.Named) (i : Nat) : w.resetAll.breakers[i]? =
    (w.breakers[i]?).map fun b =>
      if i ∈ w.registry.breakers.entries.map (·.2) then b.reset else b := by
  rw [← getElem?_renewed, h.resetAll_eq]
  rfl

/-- The registry has the same entries as before. -/
private theorem registry_resetAll (h : w.Named) : w.resetAll.registry = w.registry := by
  rw [h.resetAll_eq]
  rfl

/-- What is under a key after all breakers were reset. -/
private theorem breaker?_resetAll (h : w.Named) (key : String) :
    w.resetAll.breaker? key = (w.breaker? key).map (·.reset) := by
  rw [breaker?, breaker?, h.registry_resetAll]
  cases hi : w.registry.breakers.find? key with
  | none => rfl
  | some i =>
    have hmem : i ∈ w.registry.breakers.entries.map (·.2) :=
      List.mem_map.2 ⟨(key, i), mem_entries_iff.2 hi, rfl⟩
    simp only [Option.bind_some, h.breakers_resetAll, if_pos hmem]

/-- The signals after all breakers were reset. -/
private theorem signals_resetAll (h : w.Named) : Notice.signals w.resetAll.notices =
    Notice.signals w.notices ++ if w.listening then w.closings w.breakerKeys else [] := by
  have htold := h.signals_resets (l := w.registry.breakers.entries) (fun e => mem_entries_iff.1)
    (fun _ => []) fun _ => rfl
  simp only [List.append_nil] at htold
  rw [h.resetAll_eq, signals_tell, Notice.signals_append, Notice.signals_log, List.append_nil,
    htold, h.breakerKeys_eq]
  rfl

/-- All breakers can be reset by their keys, in any order. -/
private theorem resetKeys_of_perm (h : w.Named) {keys : List String}
    (hkeys : keys.Perm w.breakerKeys) :
    (w.resetKeys keys).1 = keys.map (fun _ => true) ∧
    (w.resetKeys keys).2.forget = w.resetAll.forget ∧
    Notice.signals (w.resetKeys keys).2.notices =
      Notice.signals w.notices ++ if w.listening then w.closings keys else [] := by
  obtain ⟨l, rfl, hl⟩ := h.exists_entries hkeys
  -- The entries in the order of the keys.
  have hfind : ∀ e ∈ l, w.registry.breakers.find? e.1 = some e.2 := fun e he =>
    mem_entries_iff.1 (hl.mem_iff.1 he)
  have hnodup : (l.map (·.2)).Nodup := (hl.map _).nodup_iff.2 h.nodup_numbers
  rw [resetKeys_eq hfind hnodup]
  refine ⟨by simp, ?_, ?_⟩
  · have hsame : w.forget.renewed (l.map (·.2)) = w.resetAll.forget := by
      rw [h.forget_resetAll]
      exact renewed_congr fun i => (hl.map _).mem_iff
    rw [← hsame]
    rfl
  · rw [signals_tell, h.signals_resets hfind (fun e => [resetByOperator e.1]) fun _ => rfl]
    rfl

/-- Breakers that were reset are not changed by another reset of all, and signal nothing. -/
private theorem resetAll_resetAll (h : w.Named) : w.resetAll.resetAll.forget = w.resetAll.forget ∧
    Notice.signals w.resetAll.resetAll.notices = Notice.signals w.resetAll.notices := by
  have hnamed : w.resetAll.Named := abiding_named.resetAll h
  constructor
  · rw [hnamed.forget_resetAll, h.forget_resetAll, h.registry_resetAll, renewed_renewed]
    exact renewed_congr fun i => by rw [List.mem_append, or_self]
  · -- Every breaker that is found is closed by now.
    have hnone : ∀ keys, w.resetAll.closings keys = [] := by
      intro keys
      refine List.map_eq_nil_iff.2 (List.filter_eq_nil_iff.2 fun key _ => ?_)
      rw [h.breaker?_resetAll]
      cases w.breaker? key <;> simp [Breaker.reset]
    rw [hnamed.signals_resetAll, hnone]
    simp

end Named

end World

/-! ## From the beginning on -/

namespace Floor

variable {β ρ : Type}

/-- After anything that is done with an orchestrator from its beginning on, all its breakers are
reset.

* Under each of the keys, which are listed in order, stands the same breaker as before, now closed,
  with both counters at zero and without a failure.
* Each breaker that was not closed signals under its key that it is closed, in the order of the
  keys, and nothing else is signalled.
* To reset the breakers by their keys in any order does the same, but for the order of the signals,
  and every key has its breaker.
* Nothing but breakers is changed, none of them but the registered ones, and each has the calls that
  it has admitted and refused.
* To reset all breakers again changes nothing, and signals nothing. -/
theorem every_breaker_renewed (listening : Bool) (l : List (Use β ρ)) :
    let w := ((Floor.ofWorld (.start listening) : Floor β ρ).uses l).world
    let w' := w.resetAll
    (w.breakerKeys.Pairwise (· < ·) ∧
      (∀ key, key ∈ w.breakerKeys ↔ (w.breaker? key).isSome) ∧
      ∀ key, w'.breaker? key = (w.breaker? key).map fun b =>
        { b with state := .closed, failures := 0, successes := 0, lastFailure := none }) ∧
    Notice.signals w'.notices =
      Notice.signals w.notices ++ (if listening then w.closings w.breakerKeys else []) ∧
    (∀ keys : List String, keys.Perm w.breakerKeys →
      (w.resetKeys keys).1 = keys.map (fun _ => true) ∧
      (w.resetKeys keys).2.forget = w'.forget ∧
      Notice.signals (w.resetKeys keys).2.notices =
        Notice.signals w.notices ++ (if listening then w.closings keys else []) ∧
      (w.closings keys).Perm (w.closings w.breakerKeys)) ∧
    (w'.forget = { w.forget with breakers := w'.breakers } ∧
      (∀ i, (∀ key, w.registry.breakers.find? key ≠ some i) →
        w'.breakers[i]? = w.breakers[i]?) ∧
      w'.breakers.map (fun b => (b.name, b.policy, b.admitted, b.refused)) =
        w.breakers.map fun b => (b.name, b.policy, b.admitted, b.refused)) ∧
    w'.resetAll.forget = w'.forget ∧
      Notice.signals w'.resetAll.notices = Notice.signals w'.notices := by
  intro w w'
  have hnamed : w.Named := named_of_start listening l
  have hlistening : w.listening = listening := (World.abiding_listening listening).uses rfl l
  refine ⟨⟨World.listing_sorted (k := .breaker), fun key => World.mem_breakerKeys_iff,
    hnamed.breaker?_resetAll⟩, ?_, fun keys hkeys => ?_, ⟨?_, fun i hi => ?_, ?_⟩,
    hnamed.resetAll_resetAll⟩
  · rw [hnamed.signals_resetAll, hlistening]
  -- In another order the same breakers close, and so the same signals are told.
  · obtain ⟨hanswers, hsame, hsignals⟩ := hnamed.resetKeys_of_perm hkeys
    rw [hlistening] at hsignals
    exact ⟨hanswers, hsame, hsignals, (hkeys.filter _).map _⟩
  · -- The journal is left out, so its breakers are those of the world.
    show w.resetAll.forget = { w.forget with breakers := w.resetAll.forget.breakers }
    rw [hnamed.forget_resetAll]
    rfl
  -- A breaker that is in no entry is not reached by a reset.
  · have hfree : i ∉ w.registry.breakers.entries.map (·.2) := by
      intro hmem
      obtain ⟨e, he, rfl⟩ := List.mem_map.1 hmem
      exact hi e.1 (World.mem_entries_iff.1 he)
    simp [w', hnamed.breakers_resetAll, hfree]
  -- Reset or not, a breaker keeps its name, its policy and what it has counted.
  · refine List.ext_getElem? fun i => ?_
    rw [List.getElem?_map, List.getElem?_map, hnamed.breakers_resetAll, Option.map_map]
    congr 1
    funext b
    dsimp only [Function.comp]
    split <;> rfl

/-- Four breakers, made in another order than that of their keys: one that has failed but is still
closed, one that is open, one that is half-open and one that was closed all the time. Two of them
signal, in either order. -/
theorem every_breaker_renewed_mixed :
    let policy (failures : UInt32) : BreakerPolicy := ⟨failures, .zero, 2⟩
    let l : List (Use Nat Nat) := [
      .outside (.findBreaker "d" (policy 1)), .outside (.findBreaker "b" (policy 1)),
      .outside (.findBreaker "a" (policy 2)), .outside (.findBreaker "c" (policy 1)),
      .outside (.settle 0 false), .outside (.acquire 0), .outside (.settle 0 true),
      .outside (.settle 1 false), .outside (.settle 2 false)]
    let w := ((Floor.ofWorld (.start true) : Floor Nat Nat).uses l).world
    let before : List Signal :=
      [.stateChange "d" .opened, .stateChange "d" .halfOpen, .stateChange "b" .opened]
    w.breakersByKey.map (fun (key, b) => (key, b.state, b.failures, b.successes)) =
      [("a", .closed, 1, 0), ("b", .opened, 1, 0), ("c", .closed, 0, 0), ("d", .halfOpen, 1, 1)] ∧
    w.resetAll.breaker? "d" =
      some ⟨"d", policy 1, .closed, 0, 0, none, 1, 0⟩ ∧
    Notice.signals w.resetAll.notices =
      before ++ [.stateChange "b" .closed, .stateChange "d" .closed] ∧
    (w.resetKeys ["d", "c", "b", "a"]).1 = [true, true, true, true] ∧
    (w.resetKeys ["d", "c", "b", "a"]).2.forget = w.resetAll.forget ∧
    Notice.signals (w.resetKeys ["d", "c", "b", "a"]).2.notices =
      before ++ [.stateChange "d" .closed, .stateChange "b" .closed] := by
  intro policy l w before
  obtain ⟨⟨-, -, hkey⟩, hsignals, horder, -⟩ := every_breaker_renewed true l
  have hbefore : Notice.signals w.notices = before := by decide +kernel
  have hkeys : w.breakerKeys = ["a", "b", "c", "d"] := by decide +kernel
  have hreversed : ["d", "c", "b", "a"].Perm w.breakerKeys := by
    rw [hkeys]
    decide
  have htold : w.closings ["a", "b", "c", "d"] =
    [.stateChange "b" .closed, .stateChange "d" .closed] := by decide +kernel
  have htold' : w.closings ["d", "c", "b", "a"] =
    [.stateChange "d" .closed, .stateChange "b" .closed] := by decide +kernel
  have hfound : w.breaker? "d" = some ⟨"d", policy 1, .halfOpen, 1, 1, some .zero, 1, 0⟩ := by
    decide +kernel
  obtain ⟨hanswers, hsame, hsignals', -⟩ := horder ["d", "c", "b", "a"] hreversed
  refine ⟨by decide +kernel, ?_, ?_, hanswers, hsame, ?_⟩
  · rw [show w.resetAll.breaker? "d" = _ from hkey "d", hfound]
    rfl
  · rw [show Notice.signals w.resetAll.notices = _ from hsignals, hbefore, hkeys, if_pos rfl, htold]
  · rw [show Notice.signals (w.resetKeys _).2.notices = _ from hsignals', hbefore, if_pos rfl,
      htold']

end Floor

end Safeguard
