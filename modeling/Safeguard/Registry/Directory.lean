/-!
# Directories

A `Directory` maps keys to numbers and lists its entries in the order of their keys, each key once.
-/

namespace Safeguard

/-- The entries with `key` put where it belongs; an entry of the same key is replaced. -/
def putEntry (key : String) (value : Nat) : List (String × Nat) → List (String × Nat)
  | [] => [(key, value)]
  | (k, v) :: rest =>
    if key < k then (key, value) :: (k, v) :: rest
    else if k = key then (key, value) :: rest
    else (k, v) :: putEntry key value rest

/-- An entry after the insertion is the new one or an old one. -/
private theorem mem_putEntry {key : String} {value : Nat} {entries : List (String × Nat)}
    {e : String × Nat} (h : e ∈ putEntry key value entries) : e = (key, value) ∨ e ∈ entries := by
  fun_induction putEntry key value entries with
  | case1 => simpa using h
  | case2 k v rest _ => simpa using h
  | case3 v rest _ =>
    rcases List.mem_cons.1 h with rfl | h
    · exact .inl rfl
    · exact .inr (List.mem_cons_of_mem _ h)
  | case4 k v rest _ _ ih =>
    rcases List.mem_cons.1 h with rfl | h
    · exact .inr List.mem_cons_self
    · exact (ih h).imp_right (List.mem_cons_of_mem _)

/-- The entries stay sorted by their keys. -/
private theorem pairwise_putEntry {key : String} {value : Nat} {entries : List (String × Nat)}
    (h : entries.Pairwise (·.1 < ·.1)) : (putEntry key value entries).Pairwise (·.1 < ·.1) := by
  -- The cases of the insertion: at the end, in front, in place, and further on.
  fun_induction putEntry key value entries with
  | case1 => simp
  | case2 k v rest hlt =>
    refine List.pairwise_cons.2 ⟨fun e he => ?_, h⟩
    rcases List.mem_cons.1 he with rfl | he
    · exact hlt
    · exact String.lt_trans hlt ((List.pairwise_cons.1 h).1 e he)
  | case3 v rest _ =>
    obtain ⟨hfirst, hrest⟩ := List.pairwise_cons.1 h
    exact List.pairwise_cons.2 ⟨fun e he => hfirst e he, hrest⟩
  | case4 k v rest hlt hne ih =>
    obtain ⟨hfirst, hrest⟩ := List.pairwise_cons.1 h
    refine List.pairwise_cons.2 ⟨fun e he => ?_, ih hrest⟩
    rcases mem_putEntry he with rfl | he
    · exact Std.lt_of_le_of_ne (Std.not_lt.1 hlt) hne
    · exact hfirst e he

/-- Numbers under keys, in the order of the keys. -/
structure Directory where
  entries : List (String × Nat)
  sorted : entries.Pairwise (·.1 < ·.1)

namespace Directory

/-- The directory without entries. -/
def empty : Directory := ⟨[], .nil⟩

/-- The number under a key. -/
def find? (d : Directory) (key : String) : Option Nat := d.entries.lookup key

/-- The directory with a number under a key. -/
def insert (d : Directory) (key : String) (value : Nat) : Directory :=
  ⟨putEntry key value d.entries, pairwise_putEntry d.sorted⟩

/-- The number of entries. -/
def size (d : Directory) : Nat := d.entries.length

end Directory

end Safeguard
