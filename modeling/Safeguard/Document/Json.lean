import Safeguard.Document.Codec
import Safeguard.Document.Json.Token
import Safeguard.Number.Shortest
import Safeguard.Text.Quoted

/-!
# Documents in JSON

JSON is read token by token. The lists and tables that are part way through are kept in a list of
frames, innermost first, so they may be nested as deep as memory holds. It is written without any
space between tokens.
-/

namespace Safeguard.Document

namespace Json

/-- JSON has `null`, and a section written as a list must not have more items than it has fields. -/
def dialect : Dialect := ⟨false, false⟩

/-- A list or table part way through, its content in reverse. -/
inductive Frame where
  | list (done : List Document)
  | table (done : List (Option String × Document))
  /-- A table that waits for the value of a key. -/
  | entry (done : List (Option String × Document)) (key : Option String)

/-- What may come next. -/
inductive Place where
  | item
  /-- An item, or the end of a list that has just begun. -/
  | firstItem
  /-- A key, or the end of a table that has just begun. -/
  | firstKey
  | key
  | colon (key : Option String)
  /-- A comma, or the end of the innermost list or table. -/
  | afterItem
  /-- Nothing: the document is complete. -/
  | finished (v : Document)

/-- The state of the reader. -/
structure ReaderState where
  frames : List Frame
  place : Place

/-- Hands a complete value to the innermost frame. -/
def complete (v : Document) : List Frame → ReaderState
  | .list done :: frames => ⟨.list (v :: done) :: frames, .afterItem⟩
  | .entry done key :: frames => ⟨.table ((key, v) :: done) :: frames, .afterItem⟩
  | frames => ⟨frames, .finished v⟩

/-- The value of a text in quotes. -/
def quotedValue : Option String → Document
  | some s => text s
  | none => unreadable

/-- Reads the beginning of an item. -/
def beginItem? (frames : List Frame) : Token → Option ReaderState
  | .scalar v => some (complete v frames)
  | .quoted s => some (complete (quotedValue s) frames)
  | .openList => some ⟨.list [] :: frames, .firstItem⟩
  | .openTable => some ⟨.table [] :: frames, .firstKey⟩
  | _ => none

/-- Ends the innermost list or table. -/
def close? : List Frame → Token → Option ReaderState
  | .list done :: frames, .closeList => some (complete (list done.reverse) frames)
  | .table done :: frames, .closeTable => some (complete (table done.reverse) frames)
  | _, _ => none

/-- Reads one token. -/
def readStep? (s : ReaderState) (t : Token) : Option ReaderState :=
  match s.place, t with
  | .item, t => beginItem? s.frames t
  | .firstItem, .closeList => close? s.frames .closeList
  | .firstItem, t => beginItem? s.frames t
  | .firstKey, .closeTable => close? s.frames .closeTable
  | .firstKey, .quoted k | .key, .quoted k => some ⟨s.frames, .colon k⟩
  | .colon k, .colon =>
    match s.frames with
    | .table done :: frames => some ⟨.entry done k :: frames, .item⟩
    | _ => none
  -- Behind a comma there has to be another item, so no list or table ends with one.
  | .afterItem, .comma =>
    match s.frames with
    | .list _ :: _ => some ⟨s.frames, .item⟩
    | .table _ :: _ => some ⟨s.frames, .key⟩
    | _ => none
  | .afterItem, t => close? s.frames t
  | _, _ => none

/-- One character of a written text: the quote, the backslash and the controls are escaped. -/
def writeChar (c : Char) : List Char :=
  if c = '"' then ['\\', '"']
  else if c = '\\' then ['\\', '\\']
  else if c = '\x08' then ['\\', 'b']
  else if c = '\x0c' then ['\\', 'f']
  else if c = '\n' then ['\\', 'n']
  else if c = '\r' then ['\\', 'r']
  else if c = '\t' then ['\\', 't']
  else if c.toNat < 0x20 then
    -- Other controls by their code, in four digits.
    let ds := Text.hexText c.toNat
    ['\\', 'u'] ++ List.replicate (4 - ds.length) '0' ++ ds
  else [c]

/-- A text in quotes. -/
def writeText (s : String) : List Char := '"' :: s.toList.flatMap writeChar ++ ['"']

/-- Items with commas between them. -/
def separated : List (List Char) → List Char
  | [] => []
  | [x] => x
  | x :: xs => x ++ ',' :: separated xs

mutual

/-- The text of a document. What has no text of its own is written as `null`. -/
def write : Document → List Char
  | null | unreadable | moment => ['n', 'u', 'l', 'l']
  | bool true => ['t', 'r', 'u', 'e']
  | bool false => ['f', 'a', 'l', 's', 'e']
  | integer n => (if n < 0 then ['-'] else []) ++ Digits.ofNat n.natAbs
  | double x => if x.isFinite then (x.textIn .inDocument).toList else ['n', 'u', 'l', 'l']
  | text s => writeText s
  | list items => '[' :: separated (writeItems items) ++ [']']
  | table entries => '\x7b' :: separated (writeEntries entries) ++ ['\x7d']

/-- The texts of items. -/
def writeItems : List Document → List (List Char)
  | [] => []
  | v :: vs => write v :: writeItems vs

/-- The texts of entries. -/
def writeEntries : List (Option String × Document) → List (List Char)
  | [] => []
  | (key, v) :: rest => (writeText (key.getD "") ++ ':' :: write v) :: writeEntries rest

end

end Json

/-- The document that a JSON text describes. -/
def ofJson? (s : String) : Option Document := do
  let state ← (← Json.tokens? s.toList).foldlM Json.readStep? ⟨[], .item⟩
  match state.place with
  | .finished v => some v
  | _ => none

/-- A document as JSON text. -/
def toJson (v : Document) : String := String.ofList (Json.write v)

end Safeguard.Document
