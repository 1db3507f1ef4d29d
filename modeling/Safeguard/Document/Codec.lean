import Safeguard.Document
import Safeguard.Time.Duration

/-!
# Reading and writing values in documents

A `Field σ` says how one value of a section `σ` is kept in a document. A section is a list of
fields: it is written as a table, and read from a table in any order, or from a list in the order of
the fields. What is missing keeps the value it had; what is not known is passed over.

Notations differ in two details, which a `Dialect` holds.
-/

namespace Safeguard

/-- How a notation treats a list that is too long, and what stands for a value without content. -/
structure Dialect where
  /-- Whether a section read from a list may have more items than fields. -/
  surplus : Bool
  /-- Whether an empty table or list stands for a value without content; otherwise `null` does. -/
  emptyIsUnit : Bool
deriving DecidableEq

namespace Document

variable (d : Dialect)

/-- Whether a value has no content. -/
def isUnit : Document → Bool
  | null => !d.emptyIsUnit
  | table [] | list [] => d.emptyIsUnit
  | _ => false

/-- A whole number below `2^bits`. -/
def toWord? (bits : Nat) : Document → Option Nat
  | integer n => if 0 ≤ n ∧ n < 2 ^ bits then some n.toNat else none
  | _ => none

/-- A 32-bit word. -/
def toWord32? (v : Document) : Option UInt32 := (v.toWord? 32).map UInt32.ofNat

/-- A 64-bit word. -/
def toWord64? (v : Document) : Option UInt64 := (v.toWord? 64).map UInt64.ofNat

/-- A number; a whole one has to fit into 64 bits, with or without a sign. -/
def toDouble? : Document → Option Binary64
  | integer n => if -2 ^ 63 ≤ n ∧ n < 2 ^ 64 then some (.ofInt n) else none
  | double x => some x
  | _ => none

/-- A span of time, kept as whole milliseconds. -/
def toMillis? (v : Document) : Option Duration := v.toWord64?.map .ofMillis

/-- A value that may be missing, for which `null` can stand. -/
def toOptional? {α : Type} (read : Document → Option α) : Document → Option (Option α)
  | null => some none
  | v => (read v).map some

/-- A text. -/
def toText? : Document → Option String
  | text s => some s
  | _ => none

/-- One of several keywords: its text, or a table with the keyword as its only key and no content
under it. -/
def toKeyword? {α : Type} (ofKeyword? : String → Option α) : Document → Option α
  | text s => ofKeyword? s
  | table [(some key, v)] => if v.isUnit d then ofKeyword? key else none
  | _ => none

/-- The document of a word. -/
def ofWord (n : Nat) : Document := integer n

/-- The document of a span of time. -/
def ofMillis (d : Duration) : Document := integer d.toMillis.toNat

end Document

/-- How one value of a section is kept in a document. -/
structure Field (σ : Type) where
  name : String
  /-- The section with the value read from a document. -/
  read : Dialect → Document → σ → Option σ
  /-- The document of the value, unless it is left out. -/
  write : σ → Option Document

namespace Field

variable {σ τ α : Type}

/-- A field for a value that has one document. -/
def ofValue (name : String) (read : Document → Option α) (write : α → Document) (get : σ → α)
    (set : α → σ → σ) : Field σ where
  name
  read _ v s := (read v).map fun a => set a s
  write s := some (write (get s))

/-- The section with the value that a table has under the name of the field. A name that occurs
twice is refused. -/
def readEntry (d : Dialect) (entries : List (Option String × Document)) (s : σ) (f : Field σ) :
    Option σ :=
  match entries.filter (·.1 = some f.name) with
  -- A field that is missing keeps its value.
  | [] => some s
  | [(_, v)] => f.read d v s
  | _ => none

/-- A section read from a document, starting from `s`. A moment is a table without known keys. -/
def readAll (fields : List (Field σ)) (d : Dialect) (v : Document) (s : σ) : Option σ :=
  match v with
  | .table entries =>
    if entries.any (·.1.isNone) then none else fields.foldlM (readEntry d entries) s
  | .list items =>
    -- Items without a field are dropped where the dialect lets them pass.
    if !d.surplus && fields.length < items.length then none
    else (fields.zip items).foldlM (fun s (f, item) => f.read d item s) s
  | .moment => some s
  | _ => none

/-- A section read from a document that says all of it. -/
def readWhole (fields : List (Field σ)) (d : Dialect) (v : Document) (s : σ) : Option σ :=
  let whole : Bool :=
    match v with
    | .table entries => fields.all fun f => entries.any (·.1 = some f.name)
    | .list items => fields.length ≤ items.length
    | _ => false
  if whole then readAll fields d v s else none

/-- The document of a section. -/
def writeAll (fields : List (Field σ)) (s : σ) : Document :=
  .table (fields.filterMap fun f => (f.write s).map fun v => (some f.name, v))

/-- A field for a section inside a section; what the inner one does not say is as in `standard`. -/
def ofSection (name : String) (fields : List (Field τ)) (standard : τ) (get : σ → τ)
    (set : τ → σ → σ) : Field σ where
  name
  read d v s := (readAll fields d v standard).map fun t => set t s
  write s := some (writeAll fields (get s))

end Field

end Safeguard
