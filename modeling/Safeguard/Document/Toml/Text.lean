import Safeguard.Document
import Safeguard.Number.Digits

/-!
# Texts, keys and blanks of TOML

Every function of this file reads something from the beginning of a text and says what is behind it.
-/

namespace Safeguard.Document.Toml

/-- Whether a character may stand as itself in a comment or in a text on one line. -/
def isPlain (c : Char) : Bool := c = '\t' || 0x20 ≤ c.toNat && c.toNat ≠ 0x7f

/-- What is behind spaces and tabs. -/
def skipBlanks (cs : List Char) : List Char := cs.dropWhile fun c => c = ' ' || c = '\t'

/-- What is behind a line break. -/
def skipBreak? : List Char → Option (List Char)
  | '\n' :: cs => some cs
  | '\r' :: '\n' :: cs => some cs
  | _ => none

/-- What is behind a comment, if a text begins with one. -/
def skipComment : List Char → List Char
  | '#' :: cs => cs.dropWhile isPlain
  | cs => cs

/-- What is behind the end of a line: blanks, a comment, and a line break or the end of the text. -/
def endLine? (cs : List Char) : Option (List Char) :=
  match skipComment (skipBlanks cs) with
  | [] => some []
  | cs => skipBreak? cs

/-- What is behind blanks, line breaks and comments; `commented` says whether the text begins within
a comment. -/
def skipLines? (commented : Bool) : List Char → Option (List Char)
  | [] => some []
  | '\n' :: cs => skipLines? false cs
  | '\r' :: '\n' :: cs => skipLines? false cs
  -- A carriage return counts as a line break with its line feed only.
  | c :: cs =>
    if commented then if isPlain c then skipLines? true cs else none
    else if c = ' ' ∨ c = '\t' then skipLines? false cs
    else if c = '#' then skipLines? true cs
    else some (c :: cs)

/-- The characters of a text and what is behind it. -/
abbrev Reading := Option (List Char × List Char)

/-- One more character in front of a text. -/
def Reading.prepend (c : Char) (r : Reading) : Reading := r.map fun (cs, rest) => (c :: cs, rest)

/-- The character with a code point. -/
def charOf? (n : Nat) : Option Char :=
  if h : n.isValidChar then some (Char.ofNatAux n h) else none

/-- The character that an escape of one letter denotes. -/
def escaped? (c : Char) : Option Char :=
  if c = '"' ∨ c = '\\' then some c
  else if c = 'b' then some '\x08'
  else if c = 't' then some '\t'
  else if c = 'n' then some '\n'
  else if c = 'f' then some '\x0c'
  else if c = 'r' then some '\r'
  else if c = 'e' then some '\x1b'
  else none

/-- How many digits an escape by code point has. -/
def escapeWidth? (c : Char) : Option Nat :=
  if c = 'x' then some 2 else if c = 'u' then some 4 else if c = 'U' then some 8 else none

/-- Where the reading of a text in double quotes stands. -/
inductive TextState where
  | plain
  /-- Behind a backslash. -/
  | escape
  /-- In an escape by code point, of which `left` digits are still to come. -/
  | digits (value left : Nat)
  /-- Behind a backslash and blanks: a line break has to come. -/
  | joining
  /-- Behind a backslash and a line break: all blanks and line breaks are dropped. -/
  | joined

/-- Reads a text in double quotes on one line, behind the opening quote. -/
def readBasic? (state : TextState) : List Char → Reading
  | [] => none
  | c :: cs =>
    match state with
    | .escape =>
      match escaped? c, escapeWidth? c with
      | some e, _ => (readBasic? .plain cs).prepend e
      | none, some width => readBasic? (.digits 0 width) cs
      | none, none => none
    | .digits value left =>
      match Digits.hexValue? c with
      | none => none
      | some d =>
        -- The last digit: the code has to be that of a character.
        if left ≤ 1 then
          match charOf? (value * 16 + d) with
          | some e => (readBasic? .plain cs).prepend e
          | none => none
        else readBasic? (.digits (value * 16 + d) (left - 1)) cs
    | _ =>
      if c = '"' then some ([], cs)
      else if c = '\\' then readBasic? .escape cs
      else if isPlain c then (readBasic? .plain cs).prepend c
      else none

/-- Reads a text in single quotes on one line, behind the opening quote. -/
def readLiteral? : List Char → Reading
  | [] => none
  | c :: cs =>
    if c = '\'' then some ([], cs)
    else if isPlain c then (readLiteral? cs).prepend c
    else none

/-- The end of a text in three quotes, if it is here: up to two more quotes belong to the text. -/
def closing? (q : Char) : List Char → Reading
  | a :: b :: c :: cs =>
    if a = q ∧ b = q ∧ c = q then
      match cs with
      | d :: e :: rest =>
        if d = q ∧ e = q then some ([q, q], rest)
        else if d = q then some ([q], e :: rest)
        else some ([], cs)
      | [d] => if d = q then some ([q], []) else some ([], [d])
      | [] => some ([], [])
    else none
  | _ => none

/-- Reads a text in three double quotes, behind them. -/
def readLongBasic? (state : TextState) : List Char → Reading
  | [] => none
  | '\r' :: '\n' :: cs =>
    match state with
    -- A line break in the text stays as it is written.
    | .plain => ((readLongBasic? .plain cs).prepend '\n').prepend '\r'
    | .escape | .joining | .joined => readLongBasic? .joined cs
    | .digits _ _ => none
  | c :: cs =>
    match state with
    | .escape =>
      match escaped? c, escapeWidth? c with
      | some e, _ => (readLongBasic? .plain cs).prepend e
      | none, some width => readLongBasic? (.digits 0 width) cs
      | none, none =>
        if c = '\n' then readLongBasic? .joined cs
        else if c = ' ' ∨ c = '\t' then readLongBasic? .joining cs
        else none
    | .joining =>
      if c = '\n' then readLongBasic? .joined cs
      else if c = ' ' ∨ c = '\t' then readLongBasic? .joining cs
      else none
    | .digits value left =>
      match Digits.hexValue? c with
      | none => none
      | some d =>
        if left ≤ 1 then
          match charOf? (value * 16 + d) with
          | some e => (readLongBasic? .plain cs).prepend e
          | none => none
        else readLongBasic? (.digits (value * 16 + d) (left - 1)) cs
    | .plain | .joined =>
      -- Blanks are dropped behind a joined line break only.
      match state, decide (c = ' ' ∨ c = '\t' ∨ c = '\n') with
      | .joined, true => readLongBasic? .joined cs
      | _, _ =>
        match closing? '"' (c :: cs) with
        | some end_ => some end_
        | none =>
          if c = '\\' then readLongBasic? .escape cs
          else if isPlain c ∨ c = '\n' then (readLongBasic? .plain cs).prepend c
          else none

/-- Reads a text in three single quotes, behind them. -/
def readLongLiteral? : List Char → Reading
  | [] => none
  | '\r' :: '\n' :: cs => ((readLongLiteral? cs).prepend '\n').prepend '\r'
  | c :: cs =>
    match closing? '\'' (c :: cs) with
    | some end_ => some end_
    | none => if isPlain c ∨ c = '\n' then (readLongLiteral? cs).prepend c else none

/-- What is behind a line break, or the text itself. -/
def dropBreak (cs : List Char) : List Char := (skipBreak? cs).getD cs

/-- Reads a text in quotes of any kind. -/
def readText? : List Char → Reading
  | '"' :: '"' :: '"' :: cs => readLongBasic? .plain (dropBreak cs)
  | '"' :: cs => readBasic? .plain cs
  | '\'' :: '\'' :: '\'' :: cs => readLongLiteral? (dropBreak cs)
  | '\'' :: cs => readLiteral? cs
  | _ => none

/-- Whether a character may stand in a key without quotes. -/
def isBare (c : Char) : Bool := c.isAlphanum || c = '_' || c = '-'

/-- Reads one key. -/
def readKey? : List Char → Option (String × List Char)
  | '"' :: cs => (readBasic? .plain cs).map fun (k, rest) => (String.ofList k, rest)
  | '\'' :: cs => (readLiteral? cs).map fun (k, rest) => (String.ofList k, rest)
  | cs =>
    let k := cs.takeWhile isBare
    if k.isEmpty then none else some (String.ofList k, cs.dropWhile isBare)

/-- How many keys with points between them there may be. -/
def maxKeys : Nat := 80

/-- Reads at most `n` keys with points between them: those in front of the last, the last, and what
is behind them and blanks. -/
def readPathWithin? : (n : Nat) → List Char → Option (List String × String × List Char)
  | 0, _ => none
  | n + 1, cs => do
    let (key, rest) ← readKey? cs
    match skipBlanks rest with
    | '.' :: rest =>
      let (path, last, rest) ← readPathWithin? n (skipBlanks rest)
      return (key :: path, last, rest)
    | rest => return ([], key, rest)

/-- Reads keys with points between them. -/
def readPath? (cs : List Char) : Option (List String × String × List Char) :=
  readPathWithin? maxKeys cs

end Safeguard.Document.Toml
