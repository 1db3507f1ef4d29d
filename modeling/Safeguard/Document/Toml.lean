import Safeguard.Document.Codec
import Safeguard.Document.Toml.Scalar
import Safeguard.Document.Toml.Tables
import Safeguard.Document.Toml.Text

/-!
# Documents in TOML

A TOML text is a sequence of lines: headers of tables, and keys with values for the table of the
last header. Only lists and tables in brackets may go over several lines, and they are nested at
most `maxDepth` deep. At most `maxKeys` keys stand in a row with points between them.
-/

namespace Safeguard.Document

namespace Toml

/-- A section written as a list may have too many items, and for want of a null an empty table or
list stands for a value without content. -/
def dialect : Dialect := ⟨true, true⟩

/-- How deep lists and tables in brackets may be nested. -/
def maxDepth : Nat := 80

/-- Whether a character ends a scalar without quotes. -/
def endsScalar (c : Char) : Bool :=
  c = ' ' || c = '\t' || c = '\n' || c = '\r' || c = ',' || c = ']' || c = '\x7d' || c = '#' ||
    c = '=' || c = '"' || c = '\'' || c = '[' || c = '\x7b'

/-- Reads a scalar without quotes. A date and a time of day may have a space between them. -/
def readBareScalar? (cs : List Char) : Option (Document × List Char) :=
  let run := cs.takeWhile (!endsScalar ·)
  let rest := cs.dropWhile (!endsScalar ·)
  -- A space ends a scalar, except between a date and a time of day.
  let time :=
    match rest with
    | ' ' :: later => later.takeWhile (!endsScalar ·)
    | _ => []
  if isDate run && isOffsetTime time then some (moment, rest.drop (time.length + 1))
  else (readScalar? run).map fun v => (v, rest)

/-- Reads a key with its value into the entries of a table in braces, by a reader of values. The
equals sign may stand on a line of its own. -/
def readPair? (readValue : List Char → Option (Document × List Char)) (made : Making)
    (entries : Entries) (cs : List Char) : Option (Entries × List Char) := do
  let (path, key, rest) ← readPath? cs
  match ← skipLines? false rest with
  | '=' :: rest =>
    let (v, rest) ← readValue (← skipLines? false rest)
    return (← addValue? key v made false path entries, rest)
  | _ => none

/-- Reads the items of a list behind its opening bracket, by a reader of items. The fuel bounds the
number of items. -/
def readItems? (readItem : List Char → Option (Document × List Char)) :
    (fuel : Nat) → List Char → Option (List Document × List Char)
  | 0, _ => none
  | fuel + 1, cs => do
    match ← skipLines? false cs with
    | ']' :: rest => return ([], rest)
    | cs =>
      let (v, rest) ← readItem cs
      match ← skipLines? false rest with
      -- The comma may be the last thing in the list.
      | ',' :: rest =>
        let (vs, rest) ← readItems? readItem fuel rest
        return (v :: vs, rest)
      | ']' :: rest => return ([v], rest)
      | _ => none

/-- Reads the entries of a table behind its opening brace, by a reader of values. The fuel bounds
the number of entries. -/
def readBraces? (readValue : List Char → Option (Document × List Char)) :
    (fuel : Nat) → Entries → List Char → Option (Entries × List Char)
  | 0, _, _ => none
  | fuel + 1, entries, cs => do
    match ← skipLines? false cs with
    | '\x7d' :: rest => return (entries, rest)
    | cs =>
      let (entries, rest) ← readPair? readValue .header entries cs
      match ← skipLines? false rest with
      | ',' :: rest => readBraces? readValue fuel entries rest
      | '\x7d' :: rest => return (entries, rest)
      | _ => none

/-- Reads a value in which lists and tables are nested at most `depth` deep. -/
def readValue? : (depth : Nat) → List Char → Option (Document × List Char)
  | 0, cs =>
    match cs with
    | '[' :: _ | '\x7b' :: _ => none
    | _ => readLeaf? cs
  | depth + 1, cs =>
    match cs with
    | '[' :: rest =>
      (readItems? (readValue? depth) (rest.length + 1) rest).map fun (vs, rest) => (list vs, rest)
    | '\x7b' :: rest =>
      (readBraces? (readValue? depth) (rest.length + 1) [] rest).map fun (entries, rest) =>
        (table (entryDocuments entries), rest)
    | _ => readLeaf? cs
where
  /-- Reads a text or a scalar. -/
  readLeaf? (cs : List Char) : Option (Document × List Char) :=
    match cs with
    | '"' :: _ | '\'' :: _ => (readText? cs).map fun (s, rest) => (text (String.ofList s), rest)
    | _ => readBareScalar? cs

/-- The document so far, and the path of the last header. -/
structure ReaderState where
  entries : Entries
  path : List String

/-- Reads a header behind its opening brackets. -/
def readHeader? (open_ : String → Entries → Option Entries) (close : List Char → Option (List Char))
    (s : ReaderState) (cs : List Char) : Option (ReaderState × List Char) := do
  let (path, key, rest) ← readPath? (skipBlanks cs)
  let entries ← atPath? (open_ key) path s.entries
  return (⟨entries, path ++ [key]⟩, ← close rest)

/-- Reads a key with its value into the table of the last header. -/
def readLine? (s : ReaderState) (cs : List Char) : Option (ReaderState × List Char) := do
  let (path, key, rest) ← readPath? cs
  match rest with
  | '=' :: rest =>
    let (v, rest) ← readValue? maxDepth (skipBlanks rest)
    let entries ← atPath? (addValue? key v .header false path) s.path s.entries
    return (⟨entries, s.path⟩, rest)
  | _ => none

/-- What is behind a closing bracket. -/
def closeOne? : List Char → Option (List Char)
  | ']' :: rest => some rest
  | _ => none

/-- What is behind two closing brackets. -/
def closeTwo? : List Char → Option (List Char)
  | ']' :: ']' :: rest => some rest
  | _ => none

/-- Reads line by line. The fuel bounds the number of lines. -/
def readLines? : (fuel : Nat) → ReaderState → List Char → Option Entries
  | 0, _, _ => none
  | fuel + 1, s, cs =>
    match skipBlanks cs with
    | [] => some s.entries
    | cs =>
      match endLine? cs with
      | some rest => readLines? fuel s rest
      | none => do
        let (s, rest) ←
          match cs with
          -- Two brackets add a table to a list of tables, one opens a table.
          | '[' :: '[' :: cs => readHeader? pushTable? closeTwo? s cs
          | '[' :: cs => readHeader? openTable? closeOne? s cs
          | cs => readLine? s cs
        readLines? fuel s (← endLine? rest)

/-- The text without a byte order mark in front. -/
def skipMark : List Char → List Char
  | c :: cs => if c.toNat = 0xfeff then cs else c :: cs
  | [] => []

end Toml

/-- The document that a TOML text describes. -/
def ofToml? (s : String) : Option Document :=
  let cs := Toml.skipMark s.toList
  (Toml.readLines? (cs.length + 1) ⟨[], []⟩ cs).map fun entries =>
    table (Toml.entryDocuments entries)

end Safeguard.Document
