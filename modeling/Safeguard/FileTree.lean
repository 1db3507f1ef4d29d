/-!
# Trees of files

A tree of directories and files below a root. Paths are resolved from a directory of the tree, step
by step, as the file system does it: every step but the last has to lead to a directory. What lies
above the root is a directory of which nothing is known, so no name is found in it.
-/

namespace Safeguard

/-- What a path leads to. -/
inductive FileNode
  | file (content : List UInt8)
  | directory
deriving DecidableEq

/-- A tree of files. A path from the root is a list of names; every directory on the way to a file
or to a listed directory is there. -/
structure FileTree where
  files : List (List String × List UInt8)
  directories : List (List String)

namespace FileTree

/-- A place in the file system: within the tree, or above its root. -/
inductive Place
  | within (names : List String)
  | above
deriving DecidableEq

/-- Cuts a path at its slashes. -/
def split : List Char → List (List Char)
  | [] => [[]]
  | c :: cs =>
    if c = '/' then [] :: split cs
    else
      match split cs with
      | [] => [[c]]
      | name :: names => (c :: name) :: names

/-- The names of a path, with dots and empty names between them. -/
def names (path : String) : List String := (split path.toList).map String.ofList

/-- The path of names from the root, without dots. -/
def normalize (names : List String) : List String :=
  names.foldl
    (fun done name =>
      if name = "" ∨ name = "." then done
      else if name = ".." then done.dropLast
      else done ++ [name])
    []

variable (t : FileTree)

/-- What is under a path from the root. -/
def find? (path : List String) : Option FileNode :=
  match t.files.lookup path with
  | some content => some (.file content)
  | none =>
    if path = [] ∨ t.files.any (path.isPrefixOf ·.1) ∨ t.directories.any path.isPrefixOf then
      some .directory
    else none

/-- What is at a place. -/
def nodeAt? : Place → Option FileNode
  | .within path => t.find? path
  | .above => some .directory

/-- The place to which one step of a path leads. A step leads on from a directory only. -/
def step? (p : Place) (name : String) : Option Place :=
  if t.nodeAt? p ≠ some .directory then none
  else if name = "" ∨ name = "." then some p
  else
    match p with
    | .within path =>
      if name ≠ ".." then some (.within (path ++ [name]))
      else if path = [] then some .above
      else some (.within path.dropLast)
    | .above => if name = ".." then some .above else none

/-- The size in bytes from which on a path is too long. -/
def pathBound : Nat := 4096

/-- What a path leads to from a directory. An empty path leads nowhere, and neither does one that is
too long, however short it would be without its dots. -/
def resolve? (directory : List String) (path : String) : Option FileNode := do
  let start : Place := if path.toList.head? = some '/' then .above else .within directory
  if path.isEmpty ∨ pathBound ≤ path.utf8ByteSize then none
  t.nodeAt? (← (names path).foldlM t.step? start)

/-- The content of the file to which a path leads. -/
def fileAt? (directory : List String) (path : String) : Option (List UInt8) :=
  match t.resolve? directory path with
  | some (.file content) => some content
  | _ => none

variable {t} in
/-- The content of a file is found where the path leads to the file. -/
theorem fileAt?_eq_some_iff {directory : List String} {path : String} {content : List UInt8} :
    t.fileAt? directory path = some content ↔
      t.resolve? directory path = some (.file content) := by
  unfold fileAt?
  split <;> simp_all

/-- The extension of the file to which a path leads: what stands behind the last point of its name,
unless the point is the first character or there is none. -/
def extension? (path : String) : Option String := do
  let name ← (split path.toList).getLast?
  let behind := name.reverse.takeWhile (· ≠ '.')
  if name.length ≤ behind.length + 1 then none else some (String.ofList behind.reverse)

end FileTree

end Safeguard
