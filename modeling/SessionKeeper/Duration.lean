/-!
Lengths of time with a resolution of one nanosecond, held as whole seconds and a part below one
second. Every operation stays in range: a product too large to be held is the largest duration.

`toNanos` is the meaning of a duration; `ofNanos` and `scale` are exact on it up to the longest
duration (`toNanos_ofNanos`, `toNanos_scale`).
-/

namespace SessionKeeper

/-- A length of time: whole seconds below 2^64 and nanoseconds below one second. -/
structure Duration where
  seconds : Nat
  nanos : Nat
  seconds_lt : seconds < 18446744073709551616 := by decide
  nanos_lt : nanos < 1000000000 := by decide
  deriving DecidableEq, Repr

namespace Duration

def zero : Duration := ⟨0, 0, by decide, by decide⟩

/-- The longest duration that can be held. -/
def max : Duration := ⟨18446744073709551615, 999999999, by decide, by decide⟩

/-- The length in nanoseconds. -/
def toNanos (d : Duration) : Nat := d.seconds * 1000000000 + d.nanos

/-- The duration of `n` nanoseconds, or the longest one when `n` is out of range. -/
def ofNanos (n : Nat) : Duration :=
  if h : n / 1000000000 < 18446744073709551616 then
    ⟨n / 1000000000, n % 1000000000, h, Nat.mod_lt _ (by decide)⟩
  else max

def ofMillis (n : Nat) : Duration := ofNanos (n * 1000000)

def ofSeconds (n : Nat) : Duration := ofNanos (n * 1000000000)

/-- `n` times `d`. The nanosecond parts are multiplied first and their whole seconds carried over; a
sum of seconds that is out of range gives the longest duration. -/
def scale (d : Duration) (n : Nat) : Duration :=
  let parts := d.nanos * n
  let seconds := d.seconds * n + parts / 1000000000
  if h : seconds < 18446744073709551616 then
    ⟨seconds, parts % 1000000000, h, Nat.mod_lt _ (by decide)⟩
  else max

/-- The shorter of two durations. -/
def atMost (d limit : Duration) : Duration := if d.toNanos ≤ limit.toNanos then d else limit

def isZero (d : Duration) : Bool := d.seconds == 0 && d.nanos == 0

/-! ## Nanoseconds -/

theorem toNanos_max : max.toNanos = 18446744073709551615999999999 := rfl

theorem toNanos_le_max (d : Duration) : d.toNanos ≤ max.toNanos := by
  have hs := d.seconds_lt
  have hn := d.nanos_lt
  rw [toNanos_max, toNanos]
  omega

/-- Durations are the numbers of nanoseconds up to the longest one. -/
theorem toNanos_ofNanos (n : Nat) : (ofNanos n).toNanos = min n max.toNanos := by
  rw [toNanos_max]
  by_cases h : n / 1000000000 < 18446744073709551616
  · rw [ofNanos, dif_pos h, toNanos]
    simp only
    omega
  · rw [ofNanos, dif_neg h, toNanos_max]
    omega

/-- Scaling multiplies the nanoseconds, up to the longest duration. -/
theorem toNanos_scale (d : Duration) (n : Nat) :
    (d.scale n).toNanos = min (n * d.toNanos) max.toNanos := by
  have total : n * d.toNanos = d.seconds * n * 1000000000 + d.nanos * n := by
    rw [toNanos, Nat.mul_add, Nat.mul_comm n (d.seconds * 1000000000), Nat.mul_comm n d.nanos,
      Nat.mul_right_comm]
  rw [total, toNanos_max]
  by_cases h : d.seconds * n + d.nanos * n / 1000000000 < 18446744073709551616
  · rw [scale, dif_pos h, toNanos]
    simp only
    omega
  · rw [scale, dif_neg h, toNanos_max]
    omega

theorem toNanos_atMost (d limit : Duration) :
    (d.atMost limit).toNanos = min d.toNanos limit.toNanos := by
  simp only [atMost]
  split <;> omega

/-! ## Text -/

/-- The digits of a fraction of `width` places, without the zeros at its end. -/
def fractionDigits (value width : Nat) : List Char :=
  let digits := Nat.toDigits 10 value
  let padded := List.replicate (width - digits.length) '0' ++ digits
  (padded.reverse.dropWhile (· == '0')).reverse

/-- A decimal number: `whole`, and after a point `part` out of 10^`width` unless it is zero. -/
def decimalText (whole part width : Nat) : String :=
  if part = 0 then toString whole
  else String.ofList ((toString whole).toList ++ '.' :: fractionDigits part width)

/-- The duration in the largest of the units s, ms, µs and ns that it fills at least once. -/
def text (d : Duration) : String :=
  if 0 < d.seconds then decimalText d.seconds d.nanos 9 ++ "s"
  else if 1000000 ≤ d.nanos then decimalText (d.nanos / 1000000) (d.nanos % 1000000) 6 ++ "ms"
  else if 1000 ≤ d.nanos then decimalText (d.nanos / 1000) (d.nanos % 1000) 3 ++ "µs"
  else decimalText d.nanos 0 0 ++ "ns"

end Duration

end SessionKeeper
