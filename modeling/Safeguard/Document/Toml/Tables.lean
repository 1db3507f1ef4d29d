import Safeguard.Document

/-!
# How the tables of a TOML document grow

A table comes into being by a header, as part of the path of another table's header, or by a key
with points; a table in braces is complete when it is written. These rules keep a table from being
written twice:

* a header may name a table that so far was only part of a path, and no other table;
* a key with points goes through tables that no header has named, and ends in a table made by such
  keys;
* a key is written once.
-/

namespace Safeguard.Document.Toml

/-- How a table came into being. -/
inductive Making
  | header
  | path
  | dotted
deriving DecidableEq

/-- What stands under a key while the document is read. -/
inductive Node where
  | value (v : Document)
  | table (made : Making) (entries : List (String × Node))
  /-- Tables of one header each, the last one first. -/
  | tables (last : List (String × Node)) (others : List (List (String × Node)))

/-- What stands under the keys of a table. -/
abbrev Entries := List (String × Node)

mutual

/-- The document of a node. -/
def Node.document : Node → Document
  | .value v => v
  | .table _ entries => .table (entryDocuments entries)
  | .tables last others => .list (tableDocuments others ++ [.table (entryDocuments last)])

/-- The documents of entries. -/
def entryDocuments : List (String × Node) → List (Option String × Document)
  | [] => []
  | (key, n) :: rest => (some key, n.document) :: entryDocuments rest

/-- The documents of tables that are listed the last one first. -/
def tableDocuments : List (List (String × Node)) → List Document
  | [] => []
  | entries :: rest => tableDocuments rest ++ [.table (entryDocuments entries)]

end

/-- The entries with another node under a key that is there. -/
def replace (key : String) (n : Node) (entries : Entries) : Entries :=
  entries.map fun e => if e.1 = key then (key, n) else e

/-- The entries of a table with a value under a path of keys and a last key. `made` says how the
table came into being, and `nested` whether it was reached through a path. -/
def addValue? (key : String) (v : Document) (made : Making) (nested : Bool) :
    List String → Entries → Option Entries
  | [], entries =>
    if (made = .dotted) ≠ nested ∨ (entries.lookup key).isSome then none
    else some (entries ++ [(key, .value v)])
  | p :: path, entries =>
    match entries.lookup p with
    | none =>
      (addValue? key v .dotted true path []).map fun inner => entries ++ [(p, .table .dotted inner)]
    | some (.table .header _) | some (.value _) => none
    | some (.table made inner) =>
      (addValue? key v made true path inner).map fun inner => replace p (.table made inner) entries
    | some (.tables last others) =>
      (addValue? key v .header true path last).map fun last =>
        replace p (.tables last others) entries

/-- Changes the entries of the table under a path of keys. Tables that are not there yet are made as
part of the path; of several tables under one key the last is meant. -/
def atPath? (change : Entries → Option Entries) : List String → Entries → Option Entries
  | [], entries => change entries
  | p :: path, entries =>
    match entries.lookup p with
    | none => (atPath? change path []).map fun inner => entries ++ [(p, .table .path inner)]
    | some (.value _) => none
    | some (.table made inner) =>
      (atPath? change path inner).map fun inner => replace p (.table made inner) entries
    | some (.tables last others) =>
      (atPath? change path last).map fun last => replace p (.tables last others) entries

/-- The entries with a table under a key that a header names. -/
def openTable? (key : String) (entries : Entries) : Option Entries :=
  match entries.lookup key with
  | none => some (entries ++ [(key, .table .header [])])
  | some (.table .path inner) => some (replace key (.table .header inner) entries)
  | some _ => none

/-- The entries with one more table under a key that a header in double brackets names. -/
def pushTable? (key : String) (entries : Entries) : Option Entries :=
  match entries.lookup key with
  | none => some (entries ++ [(key, .tables [] [])])
  | some (.tables last others) => some (replace key (.tables [] (last :: others)) entries)
  | some _ => none

end Safeguard.Document.Toml
