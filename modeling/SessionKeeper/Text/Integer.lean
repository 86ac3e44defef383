/-!
Decimal integers of a fixed range. The text is an optional sign and one or more ASCII digits; it is
read from the left, and the first thing wrong decides which fault is reported.
-/

namespace SessionKeeper.Text.Integer

/-- Why a text is no integer of the wanted range. -/
inductive Fault where
  | empty
  | digit
  | tooLarge
  | tooSmall
  deriving DecidableEq, Repr

def Fault.message : Fault → String
  | .empty => "cannot parse integer from empty string"
  | .digit => "invalid digit found in string"
  | .tooLarge => "number too large to fit in target type"
  | .tooSmall => "number too small to fit in target type"

/-- The value of an ASCII decimal digit. -/
def digit? (c : Char) : Option Nat :=
  if '0' ≤ c ∧ c ≤ '9' then some (c.toNat - '0'.toNat) else none

/-- Reads digits behind the value `acc`. At each place a character that is no digit is the fault
before a value above `limit` is, and that one is `beyond`. -/
def digits (limit : Nat) (beyond : Fault) : Nat → List Char → Except Fault Nat
  | acc, [] => .ok acc
  | acc, c :: cs =>
    match digit? c with
    | none => .error .digit
    | some d =>
      if limit < acc * 10 + d then .error beyond else digits limit beyond (acc * 10 + d) cs

/-- At least one digit. -/
def magnitude (limit : Nat) (beyond : Fault) : List Char → Except Fault Nat
  | [] => .error .digit
  | cs => digits limit beyond 0 cs

/-- An unsigned integer up to `limit`; a plus sign may stand in front. -/
def natural (limit : Nat) : List Char → Except Fault Nat
  | [] => .error .empty
  | '+' :: cs => magnitude limit .tooLarge cs
  | cs => magnitude limit .tooLarge cs

/-- A signed integer of 64 bits. -/
def signed64 : List Char → Except Fault Int
  | [] => .error .empty
  | '+' :: cs => (magnitude 9223372036854775807 .tooLarge cs).map Int.ofNat
  | '-' :: cs => (magnitude 9223372036854775808 .tooSmall cs).map fun n => -Int.ofNat n
  | cs => (magnitude 9223372036854775807 .tooLarge cs).map Int.ofNat

end SessionKeeper.Text.Integer
