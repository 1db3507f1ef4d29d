import Safeguard.Number.Binary64
import Safeguard.Number.Digits

/-!
# Reading numbers from text

Whole numbers within a bound, and binary64 numbers in decimal. Both say why a text is refused.
-/

namespace Safeguard

/-- Why a text is no whole number of the wanted range. -/
inductive WordError
  | empty
  | invalidDigit
  | tooLarge
deriving DecidableEq

namespace WordError

/-- The wording of a refusal. -/
def message : WordError → String
  | empty => "cannot parse integer from empty string"
  | invalidDigit => "invalid digit found in string"
  | tooLarge => "number too large to fit in target type"

end WordError

namespace Digits

/-- Adds the digits `cs` behind the number `n`. The first character at fault decides: one that is no
digit, or the one that takes the number beyond `max`. -/
def readFrom (max n : Nat) : List Char → Except WordError Nat
  | [] => .ok n
  | c :: cs =>
    match value? c with
    | none => .error .invalidDigit
    | some d => if n * 10 + d ≤ max then readFrom max (n * 10 + d) cs else .error .tooLarge

/-- Reads a whole number from 0 to `max`: ASCII digits behind an optional plus sign. -/
def read (max : Nat) : List Char → Except WordError Nat
  | [] => .error .empty
  | ['+'] => .error .invalidDigit
  | '+' :: cs => readFrom max 0 cs
  | cs => readFrom max 0 cs

end Digits

/-- Why a text is no binary64 number. -/
inductive Binary64.ReadError
  | empty
  | invalid
deriving DecidableEq

namespace Binary64

/-- The wording of a refusal. -/
def ReadError.message : ReadError → String
  | empty => "cannot parse float from empty string"
  | invalid => "invalid float literal"

/-- Splits a sign off a text; no sign stands for plus. -/
def splitSign : List Char → Bool × List Char
  | '-' :: cs => (true, cs)
  | '+' :: cs => (false, cs)
  | cs => (false, cs)

/-- Reads `e` or `E`, an optional sign and at least one digit, up to the end of the text; an empty
text stands for exponent zero. -/
def readExponent? : List Char → Option Int
  | [] => some 0
  | c :: cs =>
    if c = 'e' ∨ c = 'E' then
      let (negative, ds) := splitSign cs
      if ds.isEmpty || !ds.all Digits.isDigit then none
      else some (if negative then -(Digits.toNat ds : Int) else Digits.toNat ds)
    else none

/-- Reads an unsigned decimal number: digits, of which a point may split off a fraction, at least
one digit in all, and an optional exponent. -/
def readDecimal? (negative : Bool) (cs : List Char) : Option Binary64 := do
  let whole := cs.takeWhile Digits.isDigit
  let rest := cs.dropWhile Digits.isDigit
  let behind := match rest with
    | '.' :: r => r
    | _ => []
  let fraction := behind.takeWhile Digits.isDigit
  let tail := match rest with
    | '.' :: r => r.dropWhile Digits.isDigit
    | r => r
  if whole.isEmpty && fraction.isEmpty then none
  let exponent ← readExponent? tail
  return ofDecimal negative (Digits.toNat (whole ++ fraction)) (exponent - fraction.length)

/-- Reads a number: an optional sign, and a decimal number or one of the words `inf`, `infinity` and
`nan` in either case. -/
def read (cs : List Char) : Except ReadError Binary64 :=
  if cs.isEmpty then .error .empty
  else
    let (negative, body) := splitSign cs
    let word := String.ofList (body.map Char.toLower)
    if word = "inf" ∨ word = "infinity" then .ok (infinity negative)
    else if word = "nan" then .ok nan
    else
      match readDecimal? negative body with
      | some x => .ok x
      | none => .error .invalid

end Binary64

end Safeguard
