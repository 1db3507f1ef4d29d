import Safeguard.Text.Alphanumeric
import Safeguard.Text.Blank

/-!
# Entries of a file of variables

An entry gives a variable a value. The value is a list of pieces: characters, and references to
other variables that are resolved when the entry takes effect.
-/

namespace Safeguard.EnvFile

/-- A piece of a value. -/
inductive Piece
  | char (c : Char)
  | reference (name : String)
deriving DecidableEq

/-- A variable and its value. -/
structure Entry where
  name : String
  value : List Piece
deriving DecidableEq

/-- The value of an entry, where references are resolved by `resolve`. -/
def Entry.text (e : Entry) (resolve : String → String) : String :=
  String.join (e.value.map fun
    | .char c => c.toString
    | .reference name => resolve name)

/-- Where the reading of a value stands. The name of a reference is kept in reverse. -/
inductive ValuePlace
  | plain
  /-- Behind a blank: only a comment may follow. -/
  | ended
  | escape
  | single
  | double
  /-- Behind a backslash in double quotes. -/
  | doubleEscape
  /-- In a reference without braces. `quoted` says whether it stands in double quotes. -/
  | reference (quoted : Bool) (name : List Char)
  /-- In a reference with braces. -/
  | braced (quoted : Bool) (name : List Char)
deriving DecidableEq

/-- A reference by the name that was kept in reverse. -/
def Piece.referenceTo (name : List Char) : Piece := .reference (String.ofList name.reverse)

/-- The place outside references, in double quotes or not. -/
def ValuePlace.around (quoted : Bool) : ValuePlace := if quoted then .double else .plain

/-- The character that an escape denotes. -/
def escaped? (c : Char) : Option Char :=
  if c = '\\' ∨ c = '\'' ∨ c = '"' ∨ c = '$' ∨ c = ' ' then some c
  else if c = 'n' then some '\n'
  else none

/-- Reads a value. -/
def readValue? : ValuePlace → List Char → Option (List Piece)
  | .plain, [] | .ended, [] | .escape, [] => some []
  | .reference false name, [] => some [.referenceTo name]
  | _, [] => none
  | .plain, c :: cs =>
    if c = '$' then readValue? (.reference false []) cs
    else if c = '\'' then readValue? .single cs
    else if c = '"' then readValue? .double cs
    else if c = '\\' then readValue? .escape cs
    else if c = ' ' ∨ c = '\t' then readValue? .ended cs
    else (readValue? .plain cs).map (.char c :: ·)
  | .ended, c :: cs =>
    if c = ' ' ∨ c = '\t' then readValue? .ended cs
    else if c = '#' then some []
    else none
  | .escape, c :: cs => do
    let e ← escaped? c
    return .char e :: (← readValue? .plain cs)
  | .single, c :: cs =>
    if c = '\'' then readValue? .plain cs else (readValue? .single cs).map (.char c :: ·)
  | .double, c :: cs =>
    if c = '$' then readValue? (.reference true []) cs
    else if c = '"' then readValue? .plain cs
    else if c = '\\' then readValue? .doubleEscape cs
    else (readValue? .double cs).map (.char c :: ·)
  | .doubleEscape, c :: cs => do
    let e ← escaped? c
    return .char e :: (← readValue? .double cs)
  | .reference quoted name, c :: cs =>
    if Text.isAlphanumeric c then readValue? (.reference quoted (c :: name)) cs
    else if c = '\x7b' ∧ name = [] then readValue? (.braced quoted []) cs
    else if c = '$' then
      (readValue? (.reference quoted []) cs).map (.referenceTo name :: ·)
    else
      -- The character that ends a name stands for itself, even a quote.
      (readValue? (.around quoted) cs).map fun pieces => .referenceTo name :: .char c :: pieces
  | .braced quoted name, c :: cs =>
    if c = '\x7d' then (readValue? (.around quoted) cs).map (.referenceTo name :: ·)
    else readValue? (.braced quoted (c :: name)) cs

/-- Whether a character can begin the name of a variable. -/
def beginsName (c : Char) : Bool := c.isAlpha || c = '_'

/-- Whether a character can stand in the name of a variable. -/
def isNameChar (c : Char) : Bool := c.isAlphanum || c = '_' || c = '.'

/-- Reads the name of a variable, and says what is behind it and blanks. -/
def readName? (cs : List Char) : Option (List Char × List Char) :=
  if cs.head?.any beginsName then
    some (cs.takeWhile isNameChar, Text.trimStart (cs.dropWhile isNameChar))
  else none

/-- What is behind an equals sign and blanks. -/
def afterEquals? : List Char → Option (List Char)
  | '=' :: cs => some (Text.trimStart cs)
  | _ => none

/-- What a line says. -/
inductive Line
  | nothing
  | entry (e : Entry)
  | fault
deriving DecidableEq

/-- Reads an entry. The word `export` may stand in front of it, unless an equals sign follows. -/
def entryOf? (cs : List Char) : Option Entry := do
  -- A variable may be called `export` itself.
  let (name, rest) ← readName? cs
  let (name, rest) ←
    if name = ['e', 'x', 'p', 'o', 'r', 't'] ∧ rest.head? ≠ some '=' then readName? rest
    else some (name, rest)
  let written ← afterEquals? rest
  -- A value that begins with a comment is empty.
  let value ← if written.head? = some '#' then some [] else readValue? .plain written
  return ⟨String.ofList name, value⟩

/-- Reads a line. -/
def Line.read (cs : List Char) : Line :=
  match Text.trim cs with
  | [] | '#' :: _ => .nothing
  | cs => (entryOf? cs).elim .fault .entry

end Safeguard.EnvFile
