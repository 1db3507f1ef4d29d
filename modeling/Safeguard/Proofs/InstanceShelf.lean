import Mathlib.Data.List.DropRight
import Safeguard.Proofs.InstanceLookup

/-!
# Shelves

A `Shelf` is what a registry comes to for one kind of instances if only their labels count: the keys
with their numbers, and the label of every instance that was ever made. An instance that is offered
to it under a key is put there only if nothing is under the key yet; clearing a shelf empties its
keys, and the numbers go on.

So the instance under a key is the first one that was offered under it since the shelf was cleared
(`FirstMade`). The induction is on the last delivery.

## Key results

- `Shelf.filled_find`: what is under a key is what was offered first
- `Shelf.Sound.receive`: keys have numbers of their own
- `Shelf.Since.receive`: numbers that are given after a clearing are new
-/

namespace Safeguard

/-- What is delivered to a shelf at a time. -/
inductive Delivery (α : Type) where
  | nothing
  /-- An instance is offered under a key. -/
  | offer (key : String) (a : α)
  /-- The shelf is cleared. -/
  | clear

namespace Delivery

variable {α : Type}

/-- The instance that is offered under a key. -/
def under (key : String) : Delivery α → Option α
  | offer key' a => if key' = key then some a else none
  | nothing | clear => none

/-- What a creator delivers for a key: an instance, unless it fails. -/
def ofCreated {ε : Type} (key : String) : Except ε α → Delivery α
  | .error _ => .nothing
  | .ok a => .offer key a

/-- Whether the shelf is cleared. -/
def clears : Delivery α → Bool
  | clear => true
  | nothing | offer _ _ => false

/-- Only an offer under the key puts something there. -/
theorem under_eq_some {key : String} {d : Delivery α} {a : α} :
    d.under key = some a ↔ d = .offer key a := by
  cases d with
  | nothing | clear => simp [under]
  | offer key' a' => by_cases hkey : key' = key <;> simp [under, hkey]

end Delivery

/-! ## The first to be offered -/

section

variable {δ α : Type} (delivers : δ → Delivery α)

/-- What was done since the shelf was cleared. -/
def sinceClear (l : List δ) : List δ := l.rtakeWhile fun d => !(delivers d).clears

/-- Nothing was offered under a key since the shelf was cleared. -/
def Unmade (key : String) (l : List δ) : Prop :=
  ∀ d ∈ sinceClear delivers l, (delivers d).under key = none

/-- The instance `a` was offered under a key after `before`, and was the first since the shelf was
cleared. -/
structure FirstMade (key : String) (l before : List δ) (a : α) : Prop where
  unmade : Unmade delivers key before
  goesOn : ∃ d later, l = before ++ d :: later ∧ (delivers d).under key = some a ∧
    ∀ e ∈ later, (delivers e).clears = false

variable {delivers} {key : String} {l before : List δ} {a : α} {d : δ}

/-- What does not clear the shelf goes on. -/
private theorem sinceClear_concat (h : (delivers d).clears = false) :
    sinceClear delivers (l ++ [d]) = sinceClear delivers l ++ [d] :=
  List.rtakeWhile_concat_pos _ _ _ (by simp [h])

/-- What clears the shelf begins anew. -/
private theorem sinceClear_concat_clear (h : (delivers d).clears = true) :
    sinceClear delivers (l ++ [d]) = [] :=
  List.rtakeWhile_concat_neg _ _ _ (by simp [h])

/-- Nothing is under a key yet after a delivery that puts nothing there. -/
private theorem Unmade.concat (hd : (delivers d).under key = none)
    (h : (delivers d).clears = false → Unmade delivers key l) :
    Unmade delivers key (l ++ [d]) := by
  cases hclear : (delivers d).clears with
  | true =>
    rw [Unmade, sinceClear_concat_clear hclear]
    exact List.forall_mem_nil _
  | false =>
    rw [Unmade, sinceClear_concat hclear]
    exact List.forall_mem_append.2 ⟨h hclear, List.forall_mem_singleton.2 hd⟩

/-- The first offer stays the first while the shelf is not cleared. -/
private theorem FirstMade.concat (h : FirstMade delivers key l before a)
    (hd : (delivers d).clears = false) : FirstMade delivers key (l ++ [d]) before a := by
  obtain ⟨hunmade, first, later, rfl, hfirst, hlater⟩ := h
  refine ⟨hunmade, first, later ++ [d], by simp, hfirst, ?_⟩
  exact List.forall_mem_append.2 ⟨hlater, List.forall_mem_singleton.2 hd⟩

/-- What was done since a time at which the shelf was not cleared. -/
private theorem subset_sinceClear {later : List δ} (h : ∀ e ∈ later, (delivers e).clears = false) :
    later ⊆ sinceClear delivers (l ++ later) := by
  induction later using List.reverseRecOn with
  | nil => exact List.nil_subset _
  | append_singleton later d ih =>
    obtain ⟨hlater, hd⟩ := List.forall_mem_append.1 h
    rw [← List.append_assoc, sinceClear_concat (hd d (List.mem_singleton_self d))]
    exact List.append_subset.2
      ⟨fun e he => List.mem_append_left _ (ih hlater he), List.subset_append_right ..⟩

/-- A key under which something was offered first is not a key under which nothing was. -/
theorem FirstMade.not_unmade (h : FirstMade delivers key l before a) : ¬ Unmade delivers key l := by
  obtain ⟨-, d, later, rfl, hd, hlater⟩ := h
  intro hunmade
  have hoffer := Delivery.under_eq_some.1 hd
  have hall : ∀ e ∈ d :: later, (delivers e).clears = false :=
    List.forall_mem_cons.2 ⟨by rw [hoffer]; rfl, hlater⟩
  have hnone := hunmade d (subset_sinceClear hall List.mem_cons_self)
  rw [hd] at hnone
  cases hnone

end

/-! ## Shelves -/

/-- Keys with their numbers, and a label for every number. -/
structure Shelf (τ : Type) where
  directory : Directory
  labels : List τ

namespace Shelf

variable {α τ : Type}

/-- The shelf to which nothing was delivered. -/
def empty : Shelf τ := ⟨.empty, []⟩

/-- A label is put under a key if nothing is there, and gets the next number. -/
def offer (s : Shelf τ) (key : String) (t : τ) : Shelf τ :=
  match s.directory.find? key with
  | some _ => s
  | none => ⟨s.directory.insert key s.labels.length, s.labels ++ [t]⟩

/-- The shelf after one more delivery, of which the label counts. -/
def receive (label : α → τ) (s : Shelf τ) : Delivery α → Shelf τ
  | .nothing => s
  | .offer key a => s.offer key (label a)
  | .clear => ⟨.empty, s.labels⟩

/-- What is under a key. -/
def at? (s : Shelf τ) (key : String) : Option τ := (s.directory.find? key).bind (s.labels[·]?)

/-- The shelf with other labels. -/
def map (f : α → τ) (s : Shelf α) : Shelf τ := ⟨s.directory, s.labels.map f⟩

variable {s : Shelf τ} {key key' : String} {i n : Nat} {t : τ}

/-- Labels take no part in what is put where. -/
theorem map_receive (f : α → τ) (s : Shelf α) (d : Delivery α) :
    (s.receive id d).map f = (s.map f).receive f d := by
  cases d with
  | nothing | clear => rfl
  | offer key a =>
    simp only [receive, offer, map]
    split
    · rfl
    · simp

/-- A key that has a number keeps it when something is offered. -/
private theorem find_offer_of_some (h : s.directory.find? key = some i) :
    (s.offer key' t).directory.find? key = some i := by
  unfold offer
  split
  · exact h
  · next hnone =>
    -- The key that gets a new number had none, so it is another one.
    have hne : key ≠ key' := by
      rintro rfl
      simp [h] at hnone
    rw [Directory.find?_insert_of_ne _ hne]
    exact h

/-- An offer under another key. -/
private theorem find_offer_of_ne (h : key ≠ key') :
    (s.offer key' t).directory.find? key = s.directory.find? key := by
  unfold offer
  split
  · rfl
  · exact Directory.find?_insert_of_ne _ h _

/-- What is offered under a key that has no number gets the next one. -/
theorem offer_of_none (h : s.directory.find? key = none) :
    s.offer key t = ⟨s.directory.insert key s.labels.length, s.labels ++ [t]⟩ := by
  simp only [offer, h]

/-- Labels stay. -/
private theorem labels_offer (s : Shelf τ) (key : String) (t : τ) :
    s.labels <+: (s.offer key t).labels := by
  unfold offer
  split
  · exact List.prefix_rfl
  · exact List.prefix_append _ _

/-- Labels stay, whatever is delivered. -/
theorem labels_receive (label : α → τ) (d : Delivery α) :
    s.labels <+: (s.receive label d).labels := by
  cases d with
  | nothing | clear => exact List.prefix_rfl
  | offer key a => exact labels_offer s key (label a)

/-! ### Numbers -/

/-- Every number under a key has a label, and no two keys share a number. -/
structure Sound (s : Shelf τ) : Prop where
  lt : ∀ key i, s.directory.find? key = some i → i < s.labels.length
  injective : ∀ key key' i, s.directory.find? key = some i → s.directory.find? key' = some i →
    key = key'

/-- A shelf without keys. -/
private theorem sound_empty (labels : List τ) : Sound ⟨.empty, labels⟩ :=
  ⟨nofun, nofun⟩

/-- A key has a number after an offer if it had one, or if it is the new key. -/
private theorem find_offer (h : (s.offer key' t).directory.find? key = some i) :
    s.directory.find? key = some i ∨ key = key' ∧ i = s.labels.length := by
  by_cases hkey : key = key'
  · subst hkey
    cases hfind : s.directory.find? key with
    | some j =>
      rw [find_offer_of_some hfind] at h
      exact .inl h
    | none =>
      rw [offer_of_none hfind] at h
      exact .inr ⟨rfl, Option.some.inj (h.symm.trans (Directory.find?_insert_self ..))⟩
  · rw [find_offer_of_ne hkey] at h
    exact .inl h

/-- A key has a number after a delivery only if it had it before, or if the number is the next. -/
theorem find_receive {label : α → τ} {d : Delivery α}
    (h : (s.receive label d).directory.find? key = some i) :
    s.directory.find? key = some i ∨ i = s.labels.length := by
  cases d with
  | nothing => exact .inl h
  | offer key' a => exact (find_offer h).imp_right And.right
  | clear => cases h

/-- Labels do not matter to the numbers. -/
theorem Sound.of_map {f : α → τ} {s : Shelf α} (h : (s.map f).Sound) : s.Sound :=
  ⟨fun key i hi => (h.lt key i hi).trans_eq (List.length_map _), h.injective⟩

/-- An offer gets a number of its own. -/
theorem Sound.offer (h : s.Sound) (key : String) (t : τ) : (s.offer key t).Sound := by
  cases hfind : s.directory.find? key with
  | some i =>
    have hsame : s.offer key t = s := by simp only [Shelf.offer, hfind]
    rwa [hsame]
  | none =>
    have hlength : (s.offer key t).labels.length = s.labels.length + 1 := by
      simp [offer_of_none hfind]
    constructor
    -- A number that was there has its label, and the new one gets it now.
    · intro k i hi
      rcases find_offer hi with hi | ⟨-, rfl⟩
      · exact (h.lt k i hi).trans_le (labels_offer ..).length_le
      · omega
    · intro k k' i hi hi'
      -- The new number is not the number of an old key.
      rcases find_offer hi with hi | ⟨rfl, rfl⟩ <;> rcases find_offer hi' with hi' | ⟨hk', hi'⟩
      · exact h.injective k k' i hi hi'
      · exact absurd (h.lt k i hi) (by omega)
      · exact absurd (h.lt k' _ hi') (by omega)
      · exact hk'.symm

/-- A delivery leaves the numbers apart. -/
theorem Sound.receive (h : s.Sound) (label : α → τ) (d : Delivery α) :
    (s.receive label d).Sound := by
  cases d with
  | nothing => exact h
  | offer key a => exact h.offer key (label a)
  | clear => exact sound_empty _

/-- A sound shelf has something under every key that has a number. -/
private theorem Sound.at?_eq_none_iff (h : s.Sound) :
    s.at? key = none ↔ s.directory.find? key = none := by
  rw [at?, Option.bind_eq_none_iff]
  constructor
  · intro hnone
    cases hfind : s.directory.find? key with
    | none => rfl
    | some i =>
      -- A number in the directory lies within the labels.
      have hlt := h.lt key i hfind
      exact absurd (hnone i hfind) (by simp [hlt])
  · intro hfind i hi
    rw [hfind] at hi
    cases hi

/-- What is offered comes to be under its key if nothing was there. -/
theorem Sound.at?_receive (h : s.Sound) {d : Delivery τ} (hd : d.clears = false) (key : String) :
    (s.receive id d).at? key = (s.at? key).or (d.under key) := by
  cases d with
  | clear => cases hd
  | nothing => exact (Option.or_none ..).symm
  | offer key' t =>
    cases hfind : s.directory.find? key with
    | some i =>
      -- What is there stays.
      have hi := h.lt key i hfind
      obtain ⟨more, hmore⟩ := labels_offer s key' t
      have hfound : s.at? key = some s.labels[i] := by simp [at?, hfind, hi]
      have hstays : (s.offer key' t).at? key = some s.labels[i] := by
        rw [at?, find_offer_of_some hfind, ← hmore]
        simp [List.getElem?_append_left hi, hi]
      exact hstays.trans (by rw [hfound, Option.some_or])
    | none =>
      rw [h.at?_eq_none_iff.2 hfind, Option.none_or]
      by_cases hkey : key' = key
      · subst hkey
        show (s.offer key' t).at? key' = _
        simp [offer_of_none hfind, at?, Directory.find?_insert_self, Delivery.under]
      · show (s.offer key' t).at? key = _
        simp [at?, find_offer_of_ne (Ne.symm hkey), hfind, Delivery.under, hkey]

/-- At least `n` labels are there, and no key has a number below `n`. -/
structure Since (n : Nat) (s : Shelf τ) : Prop where
  length : n ≤ s.labels.length
  le : ∀ key i, s.directory.find? key = some i → n ≤ i

/-- The labels do not matter to what is new. -/
theorem Since.of_map {f : α → τ} {s : Shelf α} (h : (s.map f).Since n) : s.Since n :=
  ⟨h.length.trans_eq (List.length_map _), h.le⟩

/-- Since a shelf was cleared, the numbers of its keys are new. -/
private theorem since_clear (s : Shelf τ) : Since s.labels.length ⟨.empty, s.labels⟩ :=
  ⟨le_rfl, nofun⟩

/-- A number that is given later is new as well. -/
theorem Since.receive (h : s.Since n) (label : α → τ) (d : Delivery α) :
    (s.receive label d).Since n := by
  refine ⟨h.length.trans (labels_receive label d).length_le, fun key i hi => ?_⟩
  cases d with
  | nothing => exact h.le key i hi
  | offer key' a =>
    rcases find_offer hi with hi | ⟨-, rfl⟩
    · exact h.le key i hi
    · exact h.length
  | clear => cases hi

/-! ### What is under a key -/

variable {δ : Type} (delivers : δ → Delivery α) (label : α → τ)

/-- The shelf after one delivery after another. -/
def filled (l : List δ) : Shelf τ := l.foldl (fun s d => s.receive label (delivers d)) empty

/-- The last delivery comes to the shelf that the others have filled. -/
theorem filled_concat (l : List δ) (d : δ) :
    filled delivers label (l ++ [d]) = (filled delivers label l).receive label (delivers d) :=
  List.foldl_concat ..

/-- Whatever was delivered, no two keys share a number. -/
theorem sound_filled (l : List δ) : (filled delivers label l).Sound := by
  induction l using List.reverseRecOn with
  | nil => exact sound_empty _
  | append_singleton l d ih =>
    rw [filled_concat]
    exact ih.receive _ _

/-- The numbers of keys are new since a shelf was cleared. -/
theorem since_filled {before : List δ} {d : δ} (hd : delivers d = .clear) (later : List δ) :
    (filled delivers label (before ++ d :: later)).Since
      (filled delivers label before).labels.length := by
  induction later using List.reverseRecOn with
  | nil =>
    rw [filled_concat, hd]
    exact since_clear _
  | append_singleton later e ih =>
    rw [← List.cons_append, ← List.append_assoc, filled_concat]
    exact ih.receive _ _

/-- Labels stay. -/
theorem labels_filled (l more : List δ) :
    (filled delivers label l).labels <+: (filled delivers label (l ++ more)).labels := by
  induction more using List.reverseRecOn with
  | nil => simp
  | append_singleton more d ih =>
    rw [← List.append_assoc, filled_concat]
    exact ih.trans (labels_receive _ _)

/-- Nothing is under a key if nothing was offered under it since the shelf was cleared. Otherwise
the first instance that was offered is there, with the number that was next then. -/
theorem filled_find (key : String) (l : List δ) :
    (Unmade delivers key l ∧ (filled delivers label l).directory.find? key = none) ∨
      ∃ before a, FirstMade delivers key l before a ∧
        (filled delivers label l).directory.find? key =
          some (filled delivers label before).labels.length ∧
        (filled delivers label l).labels[(filled delivers label before).labels.length]? =
          some (label a) := by
  -- Induction on the deliveries from the end: the last one finds the shelf as the others left it.
  induction l using List.reverseRecOn with
  | nil => exact .inl ⟨List.forall_mem_nil _, rfl⟩
  | append_singleton l d ih =>
    rw [filled_concat]
    cases hd : delivers d with
    | clear =>
      refine .inl ⟨.concat ?_ fun h => ?_, rfl⟩
      · rw [hd]
        rfl
      · rw [hd] at h
        cases h
    | nothing =>
      have hclears : (delivers d).clears = false := by
        rw [hd]
        rfl
      rcases ih with ⟨hunmade, hnone⟩ | ⟨before, a, hfirst, hfound⟩
      · refine .inl ⟨.concat ?_ fun _ => hunmade, hnone⟩
        rw [hd]
        rfl
      · exact .inr ⟨before, a, hfirst.concat hclears, hfound⟩
    | offer key' a' =>
      have hclears : (delivers d).clears = false := by
        rw [hd]
        rfl
      rcases ih with ⟨hunmade, hnone⟩ | ⟨before, a, hfirst, hfind, hlabel⟩
      · by_cases hkey : key' = key
        · -- The offer is the first one under the key.
          subst hkey
          refine .inr ⟨l, a', ⟨hunmade, d, [], rfl, Delivery.under_eq_some.2 hd, nofun⟩, ?_⟩
          simp only [receive, offer_of_none hnone]
          exact ⟨Directory.find?_insert_self .., List.getElem?_concat_length⟩
        · refine .inl ⟨.concat ?_ fun _ => hunmade, ?_⟩
          · simp [hd, Delivery.under, hkey]
          · simp only [receive, find_offer_of_ne (Ne.symm hkey), hnone]
      · refine .inr ⟨before, a, hfirst.concat hclears, find_offer_of_some hfind, ?_⟩
        -- The key is taken, so its label stays where it is.
        obtain ⟨more, hmore⟩ := labels_offer (filled delivers label l) key' (label a')
        have hlt := (List.getElem?_eq_some_iff.1 hlabel).1
        simp only [receive]
        rw [← hmore, List.getElem?_append_left hlt]
        exact hlabel

end Shelf

end Safeguard
