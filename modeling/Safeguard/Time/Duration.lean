import Safeguard.Number.Digits

/-!
# Spans of time

A `Duration` is a whole number of nanoseconds below `2^64` seconds. Subtraction stops at zero.
Timers fire on whole milliseconds, so a span that a timer waits for is rounded up (`ceilMillis`),
while a measured or written span is cut down (`toMillis`).

The timers are those of the asynchronous runtime. Its documentation says that what is under a
deadline has to complete before the span has elapsed, whatever the span, and that time is kept in
whole milliseconds: a deadline fires on the first of them that is not before its end (`ceilMillis`).
A sleep ends likewise, but no later than at what the runtime takes for the far future
(`sleepMillis`).
-/

namespace Safeguard

/-- A span of time in whole nanoseconds, shorter than `2^64` seconds. -/
structure Duration where
  /-- The length of the span in nanoseconds. -/
  nanos : Nat
  nanos_lt : nanos < 2 ^ 64 * 10 ^ 9
deriving DecidableEq

namespace Duration

instance : LE Duration := ⟨fun a b => a.nanos ≤ b.nanos⟩
instance : LT Duration := ⟨fun a b => a.nanos < b.nanos⟩
instance (a b : Duration) : Decidable (a ≤ b) := inferInstanceAs (Decidable (a.nanos ≤ b.nanos))
instance (a b : Duration) : Decidable (a < b) := inferInstanceAs (Decidable (a.nanos < b.nanos))

theorem le_def {a b : Duration} : a ≤ b ↔ a.nanos ≤ b.nanos := Iff.rfl

theorem lt_def {a b : Duration} : a < b ↔ a.nanos < b.nanos := Iff.rfl

@[ext] theorem ext {a b : Duration} (h : a.nanos = b.nanos) : a = b := by
  cases a; cases b; simp_all

/-- The span of no length. -/
def zero : Duration := ⟨0, by decide⟩

/-- The span of `n` nanoseconds. -/
def ofNanos (n : UInt64) : Duration :=
  ⟨n.toNat, Nat.lt_of_lt_of_le n.toNat_lt (by decide)⟩

/-- The span of `n` milliseconds. -/
def ofMillis (n : UInt64) : Duration :=
  ⟨n.toNat * 10 ^ 6, by have := n.toNat_lt; omega⟩

/-- The span of `n` seconds. -/
def ofSeconds (n : UInt64) : Duration :=
  ⟨n.toNat * 10 ^ 9, by have := n.toNat_lt; omega⟩

/-- The span of `n` nanoseconds, if that is in range. -/
def ofNat? (n : Nat) : Option Duration :=
  if h : n < 2 ^ 64 * 10 ^ 9 then some ⟨n, h⟩ else none

/-- The whole seconds of a span. -/
def seconds (d : Duration) : Nat := d.nanos / 10 ^ 9

/-- The nanoseconds of a span beyond its whole seconds. -/
def subsecNanos (d : Duration) : Nat := d.nanos % 10 ^ 9

/-- `a` less `b`, or zero when `b` is longer. -/
def sub (a b : Duration) : Duration :=
  ⟨a.nanos - b.nanos, Nat.lt_of_le_of_lt (Nat.sub_le ..) a.nanos_lt⟩

instance : Sub Duration := ⟨sub⟩

@[simp] theorem nanos_sub (a b : Duration) : (a - b).nanos = a.nanos - b.nanos := rfl

/-- The milliseconds a timer takes for this span: a begun millisecond counts as a whole one. -/
def ceilMillis (d : Duration) : Nat := (d.nanos + 999999) / 10 ^ 6

/-- The longest sleep: thirty years of 365 days, which the runtime takes for the far future. -/
def longestSleep : Duration := ⟨30 * 365 * 86400 * 10 ^ 9, by decide⟩

/-- The milliseconds that a sleep of this span takes. The bound is not one of the layers, and the
documentation of the runtime does not tell it. It is measured: sleeps of `946080001` seconds and
more end after `946080000000` milliseconds, while a deadline of `946080001` seconds fires after
`946080001000`. -/
def sleepMillis (d : Duration) : Nat := min d.ceilMillis longestSleep.ceilMillis

/-- A longer span takes a timer no less time. -/
theorem ceilMillis_le {a b : Duration} (h : a ≤ b) : a.ceilMillis ≤ b.ceilMillis := by
  rw [le_def] at h
  unfold ceilMillis
  omega

/-- No sleep takes longer than it says. -/
theorem sleepMillis_le (d : Duration) : d.sleepMillis ≤ d.ceilMillis :=
  Nat.min_le_left _ _

/-- Up to the far future a sleep takes as long as it says. -/
theorem sleepMillis_of_le {d : Duration} (h : d ≤ longestSleep) : d.sleepMillis = d.ceilMillis :=
  Nat.min_eq_left (ceilMillis_le h)

/-- The whole milliseconds of a span as a 64-bit word; a span with more is written as the largest
word. -/
def toMillis (d : Duration) : UInt64 :=
  UInt64.ofNat (min (d.nanos / 10 ^ 6) (2 ^ 64 - 1))

/-- The text of a span: the largest of the units s, ms, µs and ns that it fills, with the exact
fraction behind a point. -/
def text (d : Duration) : String :=
  if 10 ^ 9 ≤ d.nanos then Digits.pointed 9 d.nanos ++ "s"
  else if 10 ^ 6 ≤ d.nanos then Digits.pointed 6 d.nanos ++ "ms"
  else if 10 ^ 3 ≤ d.nanos then Digits.pointed 3 d.nanos ++ "µs"
  else Digits.text d.nanos ++ "ns"

end Duration

end Safeguard
