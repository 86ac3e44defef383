/-!
Numbers as they are written, and whether a double can hold them.

A numeral keeps as many digits as fit into 64 bits. What it is beyond them is a power of ten, so a
long numeral stands for a number with the same first digits and the same length.
-/

namespace SessionKeeper.Json

/-- A value that is well-formed and yet denotes nothing, by where that shows. Whoever passes over
such a value and has to go on behind it can do so only if it shows at the end. -/
inductive Defect where
  | inside
  | atEnd
  deriving DecidableEq, Repr

/-- A number: digits as one integer, and the power of ten to multiply it with. The power has two
parts: what the place of the point and digits left out make, and what is written as exponent. -/
structure Numeral where
  negative : Bool
  digits : Nat
  shift : Int := 0
  power : Int := 0
  /-- Written without a point and without an exponent. -/
  integral : Bool
  deriving DecidableEq, Repr

namespace Numeral

/-- The largest integer that digits are collected in. -/
def maxDigits : Nat := 18446744073709551615

/-- The digits with one more, if they still fit. -/
def withDigit? (n : Numeral) (digit : Nat) : Option Numeral :=
  let digits := n.digits * 10 + digit
  if digits ≤ maxDigits then some { n with digits } else none

/-- The number with its digits in front of one more, which is left out. -/
def shifted (n : Numeral) : Numeral := { n with shift := n.shift + 1 }

def exponent (n : Numeral) : Int := n.shift + n.power

/-- The integer with 53 significant bits that is nearest to `n`, an even one between two. -/
def rounded (n : Nat) : Nat :=
  -- Below 2^53 the unit is one, and nothing is rounded.
  let unit := Nat.pow 2 (n.log2 - 52)
  let rest := n % unit
  let kept := n / unit
  if unit < 2 * rest ∨ (unit = 2 * rest ∧ kept % 2 = 1) then (kept + 1) * unit else kept * unit

/-- The least integer that is beyond every double once rounded. -/
def bound : Nat := Nat.pow 2 1024 - Nat.pow 2 970

/-- The largest exponent that is read. -/
def maxPower : Int := 2147483647

/-- Whether the number lies beyond every double, and where that shows. The digits and the power of
ten are rounded first, and then multiplied. An exponent out of range shows as soon as it is. -/
def defect? (n : Numeral) : Option Defect :=
  if n.digits = 0 then none
  else if maxPower < n.power / 10 then some .inside
  else if maxPower < n.power ∨ 308 < n.exponent then some .atEnd
  else if n.exponent < 0 then none
  else if bound ≤ rounded n.digits * rounded (Nat.pow 10 n.exponent.toNat) then some .atEnd
  else none

/-- The integer of 64 bits that the number is. Minus zero is none. -/
def int64? (n : Numeral) : Option Int :=
  if !n.integral || n.exponent != 0 then none
  else if n.negative then
    if 0 < n.digits ∧ n.digits ≤ 9223372036854775808 then some (-n.digits) else none
  else if n.digits ≤ 9223372036854775807 then some n.digits else none

end Numeral

end SessionKeeper.Json
