import Safeguard.Document
import Safeguard.Number.Digits

/-!
# Numbers in JSON

A number without a fraction and an exponent that fits into 64 bits is a whole number, except for
minus zero. Any other number is read into a 64-bit significand and a power of ten: digits that do
not fit into the significand are dropped, and the two are put together by one multiplication or
division by a power of ten, each rounded. So a number is read in the same way as by a decimal reader
up to these roundings; a number whose value would be infinite is unreadable.
-/

namespace Safeguard.Document.Json

/-- The parts of a written number. -/
structure NumberParts where
  negative : Bool
  whole : List Char
  /-- The digits behind the point, if there is one. -/
  fraction : Option (List Char)
  /-- Whether the exponent is negative, and its digits, if there is one. -/
  exponent : Option (Bool × List Char)
deriving DecidableEq

/-- Splits an exponent off: `e` or `E`, an optional sign, and digits up to the end. -/
def splitExponent? : List Char → Option (Option (Bool × List Char))
  | [] => some none
  | c :: cs =>
    if c = 'e' ∨ c = 'E' then
      -- The sign is optional, the digits are not.
      let (negative, ds) :=
        match cs with
        | '-' :: ds => (true, ds)
        | '+' :: ds => (false, ds)
        | ds => (false, ds)
      if ds.isEmpty || !ds.all Digits.isDigit then none else some (some (negative, ds))
    else none

/-- Splits a written number into its parts. The whole part has no zero in front, and neither
fraction nor exponent is empty. -/
def splitNumber? (cs : List Char) : Option NumberParts := do
  let (negative, cs) :=
    match cs with
    | '-' :: rest => (true, rest)
    | _ => (false, cs)
  let whole := cs.takeWhile Digits.isDigit
  let rest := cs.dropWhile Digits.isDigit
  if whole.isEmpty || (whole.head? = some '0' && whole.length ≠ 1) then none
  match rest with
  | '.' :: rest =>
    let fraction := rest.takeWhile Digits.isDigit
    if fraction.isEmpty then none
    let exponent ← splitExponent? (rest.dropWhile Digits.isDigit)
    return ⟨negative, whole, some fraction, exponent⟩
  | _ => return ⟨negative, whole, none, ← splitExponent? rest⟩

/-- The largest significand. -/
def maxSignificand : Nat := 2 ^ 64 - 1

/-- Puts digits behind the significand as long as it fits, and counts the digits that were put. -/
def absorb (significand taken : Nat) : List Char → Nat × Nat
  | [] => (significand, taken)
  | c :: cs =>
    -- The first digit that does not fit ends it, also if a smaller one behind it would.
    let next := significand * 10 + (Digits.value? c).getD 0
    if next ≤ maxSignificand then absorb next (taken + 1) cs else (significand, taken)

/-- The largest power of ten that is applied at once. -/
def maxPower : Nat := 308

/-- The power of ten `10^n`, rounded. -/
def powerOfTen (n : Nat) : Binary64 := .ofDecimal false 1 n

/-- `f · 10^exponent`, unless it is infinite. A power of ten below the range is applied in steps. -/
def scale? (f : Binary64) (exponent : Int) : Option Binary64 :=
  if 0 ≤ exponent then
    if exponent ≤ maxPower then
      let x := f * powerOfTen exponent.toNat
      if x.isFinite then some x else none
    else if f = .zero false then some f else none
  else if -exponent ≤ maxPower then some (f / powerOfTen (-exponent).toNat)
  else if f = .zero false then some f
  -- Below the range of the powers one division at a time.
  else scale? (f / powerOfTen maxPower) (exponent + maxPower)
termination_by exponent.natAbs
decreasing_by
  have : (maxPower : Int) = 308 := rfl
  omega

/-- The largest exponent that can be written. -/
def maxExponent : Nat := 2 ^ 31 - 1

/-- The number of a significand and a power of ten, to which a written exponent is added. A positive
exponent beyond `maxExponent` is out of range, a negative one makes the number zero. -/
def assemble (negative : Bool) (significand : Nat) (power : Int)
    (exponent : Option (Bool × List Char)) : Document :=
  let sign (x : Binary64) : Binary64 := if negative then x.neg else x
  let scaled (power : Int) : Document :=
    match scale? (.ofNat significand) power with
    | some x => double (sign x)
    | none => unreadable
  match exponent with
  | none => scaled power
  | some (down, ds) =>
    let e := Digits.toNat ds
    if maxExponent < e then
      if significand ≠ 0 && !down then unreadable else double (sign (.zero false))
    else scaled (if down then power - e else power + e)

/-- The value of a written number. -/
def numberValue (p : NumberParts) : Document :=
  let n := Digits.toNat p.whole
  let (significand, taken) := absorb 0 0 p.whole
  let dropped := p.whole.length - taken
  match p.fraction with
  -- A whole part that was cut short leaves its dropped digits as a power of ten.
  | some ds =>
    let (significand, behind) := absorb significand 0 ds
    assemble p.negative significand ((dropped : Int) - behind) p.exponent
  | none =>
    if p.exponent.isNone ∧ n ≤ maxSignificand then
      if !p.negative then integer n
      -- Minus zero and what is below the words are floating point.
      else if n = 0 ∨ 2 ^ 63 < n then double (Binary64.ofNat n).neg
      else integer (-n)
    else assemble p.negative significand dropped p.exponent

/-- Reads a number. -/
def readNumber? (cs : List Char) : Option Document := (splitNumber? cs).map numberValue

end Safeguard.Document.Json
