import Safeguard.Document
import Safeguard.Number.Reading

/-!
# Scalars of TOML without quotes

Keywords, numbers and moments. All of them are read from a run of characters as a whole.
-/

namespace Safeguard.Document.Toml

/-- Digits with single underscores between them, without the underscores. -/
def grouped? (isDigit : Char → Bool) : List Char → Option (List Char)
  | [] => none
  | [c] => if isDigit c then some [c] else none
  | c :: '_' :: cs => if isDigit c then (grouped? isDigit cs).map (c :: ·) else none
  | c :: cs => if isDigit c then (grouped? isDigit cs).map (c :: ·) else none

/-- Decimal digits of a whole number, without underscores; no zero stands in front. -/
def wholeDigits? (cs : List Char) : Option (List Char) := do
  let ds ← grouped? Digits.isDigit cs
  if ds.head? = some '0' && ds.length ≠ 1 then none else some ds

/-- The base that a letter behind a zero announces. -/
def base? (c : Char) : Option Nat :=
  if c = 'x' then some 16 else if c = 'o' then some 8 else if c = 'b' then some 2 else none

/-- Whether `c` is a digit in a base. -/
def isDigitIn (base : Nat) (c : Char) : Bool := (Digits.hexValue? c).any (· < base)

/-- The whole numbers that can be read: those of 128 bits, with or without a sign. -/
def inRange (n : Int) : Bool := -2 ^ 127 ≤ n && n < 2 ^ 128

/-- Reads a whole number, in decimal with an optional sign or in another base. -/
def readInteger? (cs : List Char) : Option Int :=
  match cs with
  | '0' :: c :: ds =>
    match base? c with
    | some base =>
      (grouped? (isDigitIn base) ds).map fun ds =>
        (ds.foldl (fun n d => n * base + (Digits.hexValue? d).getD 0) 0 : Nat)
    | none => none
  | _ =>
    let (negative, ds) := Binary64.splitSign cs
    (wholeDigits? ds).map fun ds => if negative then -(Digits.toNat ds : Int) else Digits.toNat ds

/-- Reads a number with a fraction or an exponent, or one of the words `inf` and `nan`. A number
that is too large is refused. -/
def readFloat? (cs : List Char) : Option Binary64 :=
  let (negative, body) := Binary64.splitSign cs
  if body = ['i', 'n', 'f'] then some (.infinity negative)
  else if body = ['n', 'a', 'n'] then some .nan
  else do
    -- Underscores are checked when the groups are read.
    let isWhole (c : Char) : Bool := Digits.isDigit c || c = '_'
    let whole ← wholeDigits? (body.takeWhile isWhole)
    let rest := body.dropWhile isWhole
    let (fraction, rest) ←
      match rest with
      | '.' :: rest =>
        (grouped? Digits.isDigit (rest.takeWhile isWhole)).map fun ds =>
          (ds, rest.dropWhile isWhole)
      | _ => some ([], rest)
    let exponent : Int ←
      match rest with
      -- Without a fraction and an exponent it is no number of this kind.
      | [] => if fraction.isEmpty then none else some 0
      | c :: ds =>
        if c = 'e' ∨ c = 'E' then
          let (down, ds) := Binary64.splitSign ds
          (grouped? Digits.isDigit ds).map fun ds =>
            if down then -(Digits.toNat ds : Int) else Digits.toNat ds
        else none
    let significand := Digits.toNat (whole ++ fraction)
    let x := Binary64.ofDecimal negative significand (exponent - fraction.length)
    if x.isFinite then some x else none

/-! ## Moments -/

/-- Reads exactly `count` digits, and says what is behind them. -/
def takeNumber? (count : Nat) (cs : List Char) : Option (Nat × List Char) :=
  let ds := cs.take count
  if ds.length = count ∧ ds.all Digits.isDigit then some (Digits.toNat ds, cs.drop count) else none

/-- Reads a given character, and says what is behind it. -/
def takeChar? (c : Char) : List Char → Option (List Char)
  | [] => none
  | d :: ds => if d = c then some ds else none

/-- The days of a month. -/
def daysIn (year month : Nat) : Nat :=
  if month = 2 then
    if year % 4 = 0 ∧ (year % 100 ≠ 0 ∨ year % 400 = 0) then 29 else 28
  else if month = 4 ∨ month = 6 ∨ month = 9 ∨ month = 11 then 30
  else 31

/-- What is behind a date, if a text begins with one. -/
def skipDate? (cs : List Char) : Option (List Char) := do
  let (year, cs) ← takeNumber? 4 cs
  let (month, cs) ← takeNumber? 2 (← takeChar? '-' cs)
  let (day, cs) ← takeNumber? 2 (← takeChar? '-' cs)
  if 1 ≤ month ∧ month ≤ 12 ∧ 1 ≤ day ∧ day ≤ daysIn year month then some cs else none

/-- What is behind a time of day, if a text begins with one. The seconds and their fraction may be
missing, and a minute may have 61 of them. -/
def skipTime? (cs : List Char) : Option (List Char) := do
  let (hour, cs) ← takeNumber? 2 cs
  let (minute, cs) ← takeNumber? 2 (← takeChar? ':' cs)
  if 23 < hour ∨ 59 < minute then none
  match cs with
  | ':' :: cs =>
    let (second, cs) ← takeNumber? 2 cs
    if 60 < second then none
    match cs with
    | '.' :: cs =>
      let rest := cs.dropWhile Digits.isDigit
      if rest.length = cs.length then none else some rest
    | _ => some cs
  | _ => some cs

/-- What is behind an offset from universal time, which may be missing. -/
def skipOffset? (cs : List Char) : Option (List Char) :=
  match cs with
  | [] => some []
  | c :: rest =>
    if c = 'Z' ∨ c = 'z' then some rest
    else if c = '+' ∨ c = '-' then do
      let (hour, rest) ← takeNumber? 2 rest
      let (minute, rest) ← takeNumber? 2 (← takeChar? ':' rest)
      if hour ≤ 23 ∧ minute ≤ 59 then some rest else none
    else none

/-- Whether a text is a date. -/
def isDate (cs : List Char) : Bool := skipDate? cs = some []

/-- Whether a text is a time of day with an optional offset. -/
def isOffsetTime (cs : List Char) : Bool := ((skipTime? cs).bind skipOffset?) = some []

/-- Whether a text is a date, a time of day, or both. -/
def isMoment (cs : List Char) : Bool :=
  isDate cs || skipTime? cs = some [] ||
    match skipDate? cs with
    | some (c :: rest) => (c = 'T' || c = 't') && isOffsetTime rest
    | _ => false

/-- Reads a scalar without quotes. -/
def readScalar? (cs : List Char) : Option Document :=
  if cs = ['t', 'r', 'u', 'e'] then some (bool true)
  else if cs = ['f', 'a', 'l', 's', 'e'] then some (bool false)
  else if isMoment cs then some moment
  else
    match readInteger? cs with
    | some n => if inRange n then some (integer n) else none
    | none => (readFloat? cs).map double

end Safeguard.Document.Toml
