import Safeguard.Text.Blank

/-!
# Lines of a file of variables

A file of variables is cut into lines, but a text in quotes may go over several of them. What
belongs together is found by looking at quotes, backslashes and blanks alone, before anything is
read. A number sign behind a blank begins a comment; of several blanks in front of it every second
one counts.
-/

namespace Safeguard.EnvFile

/-- Where the search for the end of a line stands. -/
inductive Place
  | plain
  /-- Behind a blank. -/
  | blank
  /-- Behind a backslash outside quotes. -/
  | escape
  | single
  | singleEscape
  | double
  | doubleEscape
deriving DecidableEq

/-- The place behind a character that stands outside quotes. -/
def Place.outside (c : Char) : Place :=
  if c = '\\' then .escape else if c = '"' then .double else if c = '\'' then .single else .plain

/-- The place behind a character. -/
def Place.next (c : Char) : Place → Place
  | .plain => if Text.isBlank c && c ≠ '\n' && c ≠ '\r' then .blank else .outside c
  | .blank => .outside c
  | .escape => .plain
  | .single => if c = '\\' then .singleEscape else if c = '\'' then .plain else .single
  | .singleEscape => .single
  | .double => if c = '\\' then .doubleEscape else if c = '"' then .plain else .double
  | .doubleEscape => .double

/-- The text in front of a comment, if there is one, or else the place at the end of the text. -/
def scan : Place → List Char → List Char ⊕ Place
  | p, [] => .inr p
  | p, c :: cs =>
    if p = .blank ∧ c = '#' then .inl []
    else
      match scan (p.next c) cs with
      | .inl front => .inl (c :: front)
      | .inr q => .inr q

/-- The text without the line break at its end. -/
def dropBreak (cs : List Char) : List Char :=
  match cs.reverse with
  | '\n' :: '\r' :: rest => rest.reverse
  | '\n' :: rest => rest.reverse
  | _ => cs

/-- Whether a text is a comment from its beginning. -/
def isComment (cs : List Char) : Bool := (Text.trimStart cs).head? = some '#'

/-- Joins the lines of a file to lines that are complete, the line breaks at their ends dropped.
`before` is what a line has so far, and `place` where it ends. A line that is not text, and a file
that ends within a line, make the result end with `none`. -/
def joinLines (before : List Char) (place : Place) : List (Option (List Char)) →
    List (Option (List Char))
  | [] => if place = .plain then [] else [none]
  | none :: _ => [none]
  | some line :: rest =>
    let whole := before ++ line
    if isComment whole then joinLines [] .plain rest
    else
      match scan place line with
      | .inl front => some (before ++ front) :: joinLines [] .plain rest
      | .inr .plain => some (dropBreak whole) :: joinLines [] .plain rest
      | .inr place => joinLines whole place rest

/-- Cuts bytes behind every line break. -/
def cutLines : List UInt8 → List (List UInt8)
  | [] => []
  | b :: bs =>
    if b = 10 then [b] :: cutLines bs
    else
      match cutLines bs with
      | [] => [[b]]
      | line :: lines => (b :: line) :: lines

/-- The characters of bytes, if they are a text. -/
def decode? (bs : List UInt8) : Option (List Char) :=
  (String.fromUTF8? ⟨bs.toArray⟩).map (·.toList)

/-- The bytes without a byte order mark in front. -/
def skipMark : List UInt8 → List UInt8
  | 0xef :: 0xbb :: 0xbf :: bs => bs
  | bs => bs

/-- The complete lines of a file. The last one is `none` if the file has a fault there. -/
def linesOf (bytes : List UInt8) : List (Option (List Char)) :=
  joinLines [] .plain ((cutLines (skipMark bytes)).map decode?)

end Safeguard.EnvFile
