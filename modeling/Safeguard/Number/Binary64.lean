/-!
# Binary floating point, 64 bits wide

The numbers of IEEE 754 binary64, computed exactly with natural numbers. A `Magnitude` is a
non-negative number of the format, infinity included, held as its *rank*: its place in the ordered
list of these numbers. The rank is the bit pattern without the sign, so order of ranks is order of
values, and neighbours have neighbouring ranks. `Magnitude.units` is the value in units of
`2^-1074`, the distance of the smallest two.

Every operation rounds the exact result once, to the nearest number of the format, and a value half
way between two goes to the one of even rank (`Magnitude.nearest`).
-/

namespace Safeguard

-- A power is the core library's everywhere, also beside the monoids of Mathlib.
attribute [instance (high), default_instance (high + 1)] instPowNat

/-- The rank of infinity. -/
def infinityRank : Nat := 0x7ff * 2 ^ 52

/-- A non-negative binary64 number, or infinity, as its place in their order. -/
structure Magnitude where
  rank : Nat
  rank_le : rank ≤ infinityRank
deriving DecidableEq

namespace Magnitude

/-- Zero, the first of the numbers. -/
def zero : Magnitude := ⟨0, Nat.zero_le _⟩

/-- Infinity, the last. -/
def infinity : Magnitude := ⟨infinityRank, Nat.le_refl _⟩

/-- The value that stands at a rank, in units of `2^-1074`. Infinity stands where the format's next
power of two would. -/
def unitsAt (rank : Nat) : Nat :=
  -- Subnormal numbers are one unit apart; normal ones have an implicit leading bit.
  if rank < 2 ^ 52 then rank else (2 ^ 52 + rank % 2 ^ 52) * 2 ^ (rank / 2 ^ 52 - 1)

/-- The value in units of `2^-1074`. -/
def units (m : Magnitude) : Nat := unitsAt m.rank

/-- The last rank whose value is at most `q` units. -/
def floorRank (q : Nat) : Nat :=
  if q < 2 ^ 53 then q else (q.log2 - 52) * 2 ^ 52 + q / 2 ^ (q.log2 - 52)

/-- The number nearest to `num / den` units; of two that are equally near, the one of even rank. -/
def nearest (num den : Nat) : Magnitude :=
  let below := floorRank (num / den)
  let rank :=
    -- Twice the value against the sum of the two neighbours, so that no fraction is formed.
    match compare (2 * num) (den * (unitsAt below + unitsAt (below + 1))) with
    | .lt => below
    | .gt => below + 1
    | .eq => if below % 2 = 0 then below else below + 1
  if h : rank ≤ infinityRank then ⟨rank, h⟩ else infinity

/-- Whether the number is infinity. -/
def isInfinite (m : Magnitude) : Bool := m.rank == infinityRank

/-- Whether the number is zero. -/
def isZero (m : Magnitude) : Bool := m.rank == 0

end Magnitude

/-- A binary64 number: a sign and a magnitude, or no number at all. -/
inductive Binary64 where
  | nan
  | signed (negative : Bool) (magnitude : Magnitude)
deriving DecidableEq

namespace Binary64

/-- Positive or negative zero. -/
def zero (negative : Bool) : Binary64 := signed negative .zero

/-- Positive or negative infinity. -/
def infinity (negative : Bool) : Binary64 := signed negative .infinity

/-- The number `± num / den`, rounded. -/
def ofRatio (negative : Bool) (num den : Nat) : Binary64 :=
  signed negative (.nearest (num * 2 ^ 1074) den)

/-- The number nearest to a natural number. -/
def ofNat (n : Nat) : Binary64 := ofRatio false n 1

/-- The number nearest to an integer. -/
def ofInt (n : Int) : Binary64 := ofRatio (n < 0) n.natAbs 1

/-- The number nearest to `± significand · 10^exponent`. Far outside the range of the format the
answer is infinity or zero, and no power is formed. -/
def ofDecimal (negative : Bool) (significand : Nat) (exponent : Int) : Binary64 :=
  if significand = 0 then zero negative
  else if 310 < exponent then infinity negative
  else if 3 * exponent + significand.log2 < -1077 then zero negative
  else if 0 ≤ exponent then ofRatio negative (significand * 10 ^ exponent.toNat) 1
  else ofRatio negative significand (10 ^ (-exponent).toNat)

/-- The number with the other sign. -/
def neg : Binary64 → Binary64
  | nan => nan
  | signed negative m => signed (!negative) m

/-- The product, rounded once. Zero times infinity is no number. -/
def mul : Binary64 → Binary64 → Binary64
  | signed s a, signed t b =>
    if a.isInfinite && b.isZero || a.isZero && b.isInfinite then nan
    else if a.isInfinite || b.isInfinite then infinity (s ^^ t)
    else signed (s ^^ t) (.nearest (a.units * b.units) (2 ^ 1074))
  | _, _ => nan

/-- The quotient, rounded once. Zero by zero and infinity by infinity are no numbers. -/
def div : Binary64 → Binary64 → Binary64
  | signed s a, signed t b =>
    if a.isInfinite && b.isInfinite || a.isZero && b.isZero then nan
    else if a.isInfinite || b.isZero then infinity (s ^^ t)
    else if b.isInfinite then zero (s ^^ t)
    else signed (s ^^ t) (.nearest (a.units * 2 ^ 1074) b.units)
  | _, _ => nan

instance : Mul Binary64 := ⟨mul⟩
instance : Div Binary64 := ⟨div⟩

/-- Repeated squaring: `square` stands for the base to the power of the current binary digit of `n`,
and every digit that is one multiplies it into `result`. -/
def powFrom (result square : Binary64) (n : Nat) : Binary64 :=
  let result := if n % 2 = 1 then result * square else result
  if n / 2 = 0 then result else powFrom result (square * square) (n / 2)
termination_by n
decreasing_by omega

/-- `a` to the power `n` by repeated squaring, each product rounded. -/
def pow (a : Binary64) (n : Nat) : Binary64 := powFrom (ofNat 1) a n

/-- The place of a number on the signed scale of ranks; both zeros stand at 0. -/
def place? : Binary64 → Option Int
  | nan => none
  | signed negative m => some (if negative then -(m.rank : Int) else m.rank)

/-- Whether `a` is less than `b`; what is no number compares with nothing. -/
def lt (a b : Binary64) : Bool :=
  match a.place?, b.place? with
  | some x, some y => x < y
  | _, _ => false

/-- Whether `a` is at most `b`; what is no number compares with nothing. -/
def le (a b : Binary64) : Bool :=
  match a.place?, b.place? with
  | some x, some y => x ≤ y
  | _, _ => false

/-- Whether two numbers are equal as values: the two zeros are, and `nan` equals nothing. -/
def eqv (a b : Binary64) : Bool := a.le b && b.le a

/-- Whether the number is neither infinite nor `nan`. -/
def isFinite : Binary64 → Bool
  | nan => false
  | signed _ m => !m.isInfinite

/-- The nearest whole number, halves away from zero, brought into the range of a 64-bit word. -/
def roundToWord : Binary64 → UInt64
  | nan => 0
  | signed true _ => 0
  | signed false m =>
    -- Half a unit more, and then the whole part.
    UInt64.ofNat (min ((2 * m.units + 2 ^ 1074) / 2 ^ 1075) (2 ^ 64 - 1))

/-- The bit pattern; `nan` is the quiet pattern with no payload. -/
def toBits : Binary64 → Nat
  | nan => 0x7ff8 * 2 ^ 48
  | signed negative m => (if negative then 2 ^ 63 else 0) + m.rank

end Binary64

end Safeguard
