/-!
# Decimal digits

Digits of natural numbers as characters, and the reading of digit characters. Both directions know
the ten ASCII digits only: no other character of class "digit" takes part in any number here.
-/

namespace Safeguard.Digits

/-- The decimal digits of `n`, most significant first; zero is `['0']`. -/
def ofNat (n : Nat) : List Char := Nat.toDigits 10 n

/-- The decimal text of `n`. -/
def text (n : Nat) : String := String.ofList (ofNat n)

/-- The digits of `n` with zeros in front up to `width` places. -/
def padded (width n : Nat) : List Char :=
  let ds := ofNat n
  List.replicate (width - ds.length) '0' ++ ds

/-- `ds` without the zeros at its end. -/
def dropTrailingZeros (ds : List Char) : List Char :=
  (ds.reverse.dropWhile (· == '0')).reverse

/-- The value of one digit character. -/
def value? (c : Char) : Option Nat :=
  if '0' ≤ c ∧ c ≤ '9' then some (c.toNat - '0'.toNat) else none

/-- The value of one digit character in base sixteen, of either case. -/
def hexValue? (c : Char) : Option Nat :=
  if '0' ≤ c ∧ c ≤ '9' then some (c.toNat - '0'.toNat)
  else if 'a' ≤ c ∧ c ≤ 'f' then some (c.toNat - 'a'.toNat + 10)
  else if 'A' ≤ c ∧ c ≤ 'F' then some (c.toNat - 'A'.toNat + 10)
  else none

/-- Whether `c` is one of the ten ASCII digits. -/
def isDigit (c : Char) : Bool := (value? c).isSome

/-- The number that a list of digit characters denotes; a character that is no digit counts as
zero, so the callers split off the digits first. -/
def toNat (ds : List Char) : Nat :=
  ds.foldl (fun n c => n * 10 + (value? c).getD 0) 0

/-- `n / 10 ^ places` written exactly: the whole part, and after a point the places that are left
when the zeros at the end are dropped. -/
def pointed (places n : Nat) : String :=
  let fraction := dropTrailingZeros (padded places (n % 10 ^ places))
  let whole := ofNat (n / 10 ^ places)
  String.ofList (if n % 10 ^ places = 0 then whole else whole ++ '.' :: fraction)

end Safeguard.Digits
