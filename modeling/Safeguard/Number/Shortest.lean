import Safeguard.Number.Binary64
import Safeguard.Number.Digits

/-!
# Shortest decimal text of a binary64 number

`Magnitude.shortest` finds the fewest decimal digits that read back as the number, and of those the
nearest to it. The search goes through 1, 2, … 17 digits and tests, in exact arithmetic, the two
neighbours of the value on each decimal grid. The text forms differ only in when they use an
exponent, whether a whole number keeps its point, and which of two equally near numbers they take; a
`DecimalForm` holds these choices.
-/

namespace Safeguard

/-- The number `significand · 10^exponent`. -/
structure Decimal where
  significand : Nat
  exponent : Int
deriving DecidableEq

namespace Decimal

/-- The same number with the zeros at the end of the significand moved into the exponent. -/
def strip (d : Decimal) : Decimal :=
  let ds := Digits.ofNat d.significand
  let kept := Digits.dropTrailingZeros ds
  ⟨Digits.toNat kept, d.exponent + (ds.length - kept.length : Nat)⟩

/-- The power of ten of the leading digit. -/
def lead (d : Decimal) : Int := d.exponent + (Digits.ofNat d.significand).length - 1

end Decimal

/-- Which of two neighbours on a grid is taken when they are equally near. -/
inductive Tie
  | upper
  /-- The one whose last digit is even. -/
  | even
deriving DecidableEq

/-- Whether the lower one of two neighbours, `c` and `c + 1`, is taken when they are equally near.
-/
def Tie.isLower (c : Nat) : Tie → Bool
  | upper => false
  | even => c % 2 = 0

namespace Magnitude

/-- The power of ten by which every comparison of the search is scaled, so that only natural numbers
occur: it exceeds the digits of any number of the format behind the point. -/
def gridScale : Nat := 400

/-- The grid of `count` digits, as a power of ten above `10^-400`. -/
def gridOf (m : Magnitude) (count : Nat) : Nat :=
  -- A unit is `2^-1074`, and the whole part of the scaled value has all the digits that count.
  (Digits.ofNat (m.units * 10 ^ gridScale / 2 ^ 1074)).length - count

/-- Whether the grid point `c · 10^grid` (counted from `10^-400`) reads back as `m`: it lies between
the middles to the two neighbours, or on one of them if the rank is even. -/
def readsBack (m : Magnitude) (grid c : Nat) : Bool :=
  let point := c * 10 ^ grid * 2 ^ 1075
  let low := (unitsAt (m.rank - 1) + m.units) * 10 ^ gridScale
  let high := (m.units + unitsAt (m.rank + 1)) * 10 ^ gridScale
  if m.rank % 2 = 0 then low ≤ point && point ≤ high else low < point && point < high

/-- The grid point with `count` digits that reads back as `m`, the nearer if both neighbours of the
value do. -/
def neighbour? (m : Magnitude) (tie : Tie) (count : Nat) : Option Decimal :=
  let grid := m.gridOf count
  let value := m.units * 10 ^ gridScale
  let below := value / (10 ^ grid * 2 ^ 1074)
  let middle := (2 * below + 1) * 10 ^ grid * 2 ^ 1074
  let point (c : Nat) : Decimal := ⟨c, (grid : Int) - gridScale⟩
  -- The two neighbours of the value on the grid; others are farther away and read back only if
  -- these do.
  match m.readsBack grid below, m.readsBack grid (below + 1) with
  | true, true =>
    if 2 * value < middle ∨ 2 * value = middle ∧ tie.isLower below then some (point below)
    else some (point (below + 1))
  | true, false => some (point below)
  | false, true => some (point (below + 1))
  | false, false => none

/-- The fewest digits that read back as `m`, which is neither zero nor infinite. -/
def shortest (m : Magnitude) (tie : Tie) : Decimal :=
  (((List.range 17).findSome? fun n => m.neighbour? tie (n + 1)).getD ⟨0, 0⟩).strip

end Magnitude

/-- How a decimal number is written: when with an exponent, and whether a whole number shows `.0`.
The powers of ten are those of the leading digit. -/
structure DecimalForm where
  /-- The leading powers of ten that are written without an exponent, as bounds; none is written
  with one if there are no bounds. -/
  plain : Option (Int × Int)
  /-- Whether a number without an exponent that is whole ends in `.0`. -/
  pointZero : Bool
  tie : Tie

namespace DecimalForm

/-- Digits and point, no exponent. -/
def positional (pointZero : Bool) (d : Decimal) : List Char :=
  let ds := Digits.ofNat d.significand
  let behind := (-d.exponent).toNat
  if 0 ≤ d.exponent then
    ds ++ List.replicate d.exponent.toNat '0' ++ (if pointZero then ['.', '0'] else [])
  else if behind < ds.length then
    ds.take (ds.length - behind) ++ '.' :: ds.drop (ds.length - behind)
  else
    '0' :: '.' :: List.replicate (behind - ds.length) '0' ++ ds

/-- One digit, the others behind a point, and the exponent. -/
def scientific (d : Decimal) : List Char :=
  let ds := Digits.ofNat d.significand
  let exponent := (if d.lead < 0 then ['-'] else []) ++ Digits.ofNat d.lead.natAbs
  ds.take 1 ++ (if ds.length ≤ 1 then [] else '.' :: ds.drop 1) ++ 'e' :: exponent

/-- The text of a positive number. -/
def write (form : DecimalForm) (d : Decimal) : List Char :=
  match form.plain with
  | none => positional form.pointZero d
  | some (low, high) =>
    if low ≤ d.lead ∧ d.lead ≤ high then positional form.pointZero d else scientific d

/-- Messages write every number in full: no exponent, and no point in a whole number. -/
def inFull : DecimalForm := ⟨none, false, .upper⟩

/-- Outlines of values show a whole number with `.0`, and an exponent from `10^16` up and below
`10^-4`. -/
def inOutline : DecimalForm := ⟨some (-4, 15), true, .upper⟩

/-- Written documents show a whole number with `.0`, and an exponent from `10^16` up and below
`10^-5`. -/
def inDocument : DecimalForm := ⟨some (-5, 15), true, .even⟩

end DecimalForm

namespace Binary64

/-- The text of a number in a given form. -/
def textIn (form : DecimalForm) : Binary64 → String
  | nan => "NaN"
  | signed negative m =>
    let body :=
      if m.isInfinite then "inf"
      else if m.isZero then (if form.pointZero then "0.0" else "0")
      else String.ofList (form.write (m.shortest form.tie))
    if negative then "-" ++ body else body

end Binary64

end Safeguard
