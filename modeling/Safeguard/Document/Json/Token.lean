import Safeguard.Document.Json.Number

/-!
# Tokens of JSON

JSON text is split into tokens by an automaton that looks at one character after another. A text in
quotes whose escapes do not denote characters is a token all the same, but has no value.
-/

namespace Safeguard.Document.Json

/-- A token. -/
inductive Token where
  | openList
  | closeList
  | openTable
  | closeTable
  | comma
  | colon
  /-- A text in quotes, if its escapes denote characters. -/
  | quoted (s : Option String)
  /-- A number or a keyword. -/
  | scalar (v : Document)

/-- A piece of a text in quotes: a character, or an escaped 16-bit unit. -/
inductive Piece where
  | char (c : Char)
  | unit (n : Nat)
deriving DecidableEq

/-- The characters of pieces. Two units next to each other may make up one character, and no unit of
such a pair stands alone. -/
def joinPieces? : List Piece → Option (List Char)
  | [] => some []
  | .char c :: rest => (joinPieces? rest).map (c :: ·)
  | .unit n :: rest =>
    -- A unit outside the surrogates is a character by itself.
    if n < 0xd800 ∨ 0xe000 ≤ n then (joinPieces? rest).map (Char.ofNat n :: ·)
    else
      match rest with
      | .unit m :: rest =>
        if n < 0xdc00 ∧ 0xdc00 ≤ m ∧ m < 0xe000 then
          (joinPieces? rest).map
            (Char.ofNat (0x10000 + (n - 0xd800) * 0x400 + (m - 0xdc00)) :: ·)
        else none
      | _ => none

/-- What the automaton is in the middle of; characters and pieces are kept in reverse. -/
inductive LexerState where
  | between
  | word (letters : List Char)
  | number (characters : List Char)
  | quotes (pieces : List Piece)
  /-- Behind a backslash. -/
  | escape (pieces : List Piece)
  /-- In an escaped unit, of which `left` digits are still to come. -/
  | unitDigits (pieces : List Piece) (value left : Nat)

/-- Whether a character can stand in a number. -/
def isNumberChar (c : Char) : Bool :=
  Digits.isDigit c || c = '-' || c = '+' || c = '.' || c = 'e' || c = 'E'

/-- Whether a character can stand in a keyword. -/
def isWordChar (c : Char) : Bool := c.isAlpha

/-- The value of a keyword. -/
def keyword? (letters : List Char) : Option Document :=
  if letters = ['n', 'u', 'l', 'l'] then some null
  else if letters = ['t', 'r', 'u', 'e'] then some (bool true)
  else if letters = ['f', 'a', 'l', 's', 'e'] then some (bool false)
  else none

/-- The character that an escape of one letter denotes. -/
def escaped? (c : Char) : Option Char :=
  if c = '"' ∨ c = '\\' ∨ c = '/' then some c
  else if c = 'b' then some '\x08'
  else if c = 'f' then some '\x0c'
  else if c = 'n' then some '\n'
  else if c = 'r' then some '\r'
  else if c = 't' then some '\t'
  else none

/-- Looks at a character between tokens: the tokens that it is, and what it begins. -/
def begin? (c : Char) : Option (List Token × LexerState) :=
  if c = ' ' ∨ c = '\t' ∨ c = '\n' ∨ c = '\r' then some ([], .between)
  else if c = '[' then some ([.openList], .between)
  else if c = ']' then some ([.closeList], .between)
  else if c = '\x7b' then some ([.openTable], .between)
  else if c = '\x7d' then some ([.closeTable], .between)
  else if c = ',' then some ([.comma], .between)
  else if c = ':' then some ([.colon], .between)
  else if c = '"' then some ([], .quotes [])
  else if Digits.isDigit c ∨ c = '-' then some ([], .number [c])
  else if isWordChar c then some ([], .word [c])
  else none

/-- The tokens that end with what the automaton is in the middle of. -/
def end? : LexerState → Option (List Token)
  | .between => some []
  | .word letters => (keyword? letters.reverse).map fun v => [.scalar v]
  | .number characters => (readNumber? characters.reverse).map fun v => [.scalar v]
  | .quotes _ | .escape _ | .unitDigits _ _ _ => none

/-- Looks at one character: the tokens that are complete, and the state after it. -/
def lexStep? (state : LexerState) (c : Char) : Option (List Token × LexerState) :=
  match state with
  | .between => begin? c
  -- A word ends at the first character that is not one of its letters, which is looked at again.
  | .word letters =>
    if isWordChar c then some ([], .word (c :: letters))
    else do
      let (more, state) ← begin? c
      return ((← end? (.word letters)) ++ more, state)
  | .number characters =>
    if isNumberChar c then some ([], .number (c :: characters))
    else do
      let (more, state) ← begin? c
      return ((← end? (.number characters)) ++ more, state)
  | .quotes pieces =>
    if c = '"' then some ([.quoted ((joinPieces? pieces.reverse).map String.ofList)], .between)
    else if c = '\\' then some ([], .escape pieces)
    -- Controls have to be escaped.
    else if c.toNat < 0x20 then none
    else some ([], .quotes (.char c :: pieces))
  | .escape pieces =>
    if c = 'u' then some ([], .unitDigits pieces 0 4)
    else (escaped? c).map fun e => ([], .quotes (.char e :: pieces))
  | .unitDigits pieces value left =>
    (Digits.hexValue? c).map fun d =>
      let value := value * 16 + d
      ([],
        if left ≤ 1 then .quotes (.unit value :: pieces)
        else .unitDigits pieces value (left - 1))

/-- The tokens of a text, in order. -/
def tokens? (cs : List Char) : Option (List Token) := do
  -- The tokens are collected in reverse.
  let (done, state) ← cs.foldlM
    (fun (done, state) c => do
      let (more, state) ← lexStep? state c
      return (more.reverse ++ done, state))
    ([], LexerState.between)
  return done.reverse ++ (← end? state)

end Safeguard.Document.Json
