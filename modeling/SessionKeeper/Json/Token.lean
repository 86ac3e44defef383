import SessionKeeper.Json.Numeral
import SessionKeeper.Text.Utf8

/-!
The tokens of a JSON text, read one byte at a time. The first byte that cannot be part of the text
ends the list with `malformed`, and so does a text that breaks off inside a token.

A text with half a surrogate pair, or with bytes that are no UTF-8, denotes nothing. It is a token
all the same: that it is `unreadable` matters only where somebody looks at it.
-/

namespace SessionKeeper.Json

inductive Token where
  | openObject
  | closeObject
  | openList
  | closeList
  | comma
  | colon
  | null
  | flag (value : Bool)
  | number (n : Numeral)
  | text (value : String)
  /-- What stands between the quotation marks denotes no text. -/
  | unreadable (defect : Defect)
  | malformed
  deriving DecidableEq, Repr

/-- What was read of a text so far. -/
structure Content where
  /-- The bytes, the last one first. -/
  bytes : List UInt8 := []
  /-- The first half of a surrogate pair, when the second has to follow. -/
  high : Option Nat := none
  /-- Whether every pair so far was whole. -/
  sound : Bool := true
  deriving DecidableEq, Repr

namespace Content

def addByte (c : Content) (b : UInt8) : Content :=
  { c with bytes := b :: c.bytes, high := none, sound := c.sound && c.high.isNone }

def addChar (c : Content) (n : Nat) : Content :=
  { c with bytes := (Text.Utf8.encodeChar (Char.ofNat n)).reverse ++ c.bytes, high := none }

/-- Adds a UTF-16 unit that was written by number. -/
def addUnit (c : Content) (n : Nat) : Content :=
  let low := 0xDC00 ≤ n && n ≤ 0xDFFF
  match c.high with
  | some h =>
    -- Two halves of a pair make one character beyond the first 0x10000.
    if low then c.addChar (0x10000 + (h - 0xD800) * 0x400 + (n - 0xDC00))
    else { c with high := none, sound := false }
  | none =>
    if low then { c with sound := false }
    else if 0xD800 ≤ n ∧ n ≤ 0xDBFF then { c with high := some n }
    else c.addChar n

/-- The token that the content is once its closing quotation mark is there. Only then it shows that
the second half of a pair is missing, or that the bytes are no UTF-8. -/
def token (c : Content) : Token :=
  if !c.sound then .unreadable .inside
  else if c.high.isSome then .unreadable .atEnd
  else match Text.Utf8.decode? c.bytes.reverse with
    | some cs => .text (String.ofList cs)
    | none => .unreadable .atEnd

end Content

/-- Where in a token the reading stands. -/
inductive Mode where
  | between
  /-- Inside a word, of which `rest` is still to come. -/
  | word (token : Token) (rest : List UInt8)
  | text (content : Content)
  | escape (content : Content)
  /-- Inside an escape by number, of which `left` digits are still to come. -/
  | unit (content : Content) (value left : Nat)
  | minus
  | zero (n : Numeral)
  | whole (n : Numeral)
  /-- Among the digits of the whole part that no longer fit. -/
  | wholeRest (n : Numeral)
  | point (n : Numeral)
  | fraction (n : Numeral)
  /-- Among the digits of the fraction that no longer fit. -/
  | fractionRest (n : Numeral)
  | exponent (n : Numeral)
  | exponentSign (n : Numeral) (negative : Bool)
  | exponentDigits (n : Numeral) (negative : Bool) (power : Nat)
  deriving DecidableEq, Repr

def isSpace (b : UInt8) : Bool := b == 0x20 || b == 0x0A || b == 0x0D || b == 0x09

def isDigit (b : UInt8) : Bool := 0x30 ≤ b && b ≤ 0x39

def digit (b : UInt8) : Nat := b.toNat - 0x30

def hexDigit? (b : UInt8) : Option Nat :=
  if isDigit b then some (digit b)
  else if 0x41 ≤ b ∧ b ≤ 0x46 then some (b.toNat - 0x41 + 10)
  else if 0x61 ≤ b ∧ b ≤ 0x66 then some (b.toNat - 0x61 + 10)
  else none

/-- The number whose first digit is `b`. -/
def firstDigit (negative : Bool) (b : UInt8) : Mode :=
  let n : Numeral := { negative, digits := digit b, integral := true }
  if b == 0x30 then .zero n else .whole n

/-- The number that `n` and its exponent make. -/
def scaled (n : Numeral) (negative : Bool) (power : Nat) : Numeral :=
  { n with power := if negative then -(power : Int) else power }

/-- The tokens that a byte completes, and how to go on unless the byte has no place here. -/
abbrev Step := List Token × Option Mode

/-- A byte between tokens. -/
def stepBetween (b : UInt8) : Step :=
  if isSpace b then ([], some .between)
  else if isDigit b then ([], some (firstDigit false b))
  else match Char.ofNat b.toNat with
    | '\x7b' => ([.openObject], some .between)
    | '\x7d' => ([.closeObject], some .between)
    | '[' => ([.openList], some .between)
    | ']' => ([.closeList], some .between)
    | ',' => ([.comma], some .between)
    | ':' => ([.colon], some .between)
    | '"' => ([], some (.text {}))
    | '-' => ([], some .minus)
    | 'n' => ([], some (.word .null (Text.Utf8.encode "ull")))
    | 't' => ([], some (.word (.flag true) (Text.Utf8.encode "rue")))
    | 'f' => ([], some (.word (.flag false) (Text.Utf8.encode "alse")))
    | _ => ([], none)

/-- A byte after a number that may end here: the number is complete. -/
def stepPast (n : Numeral) (b : UInt8) : Step :=
  let (tokens, mode) := stepBetween b
  (.number n :: tokens, mode)

/-- A byte after the whole part of a number, where no other digit can stand. -/
def stepTail (n : Numeral) (b : UInt8) : Step :=
  match Char.ofNat b.toNat with
  | '.' => ([], some (.point { n with integral := false }))
  | 'e' | 'E' => ([], some (.exponent { n with integral := false }))
  | _ => stepPast n b

/-- A byte after the fraction of a number, where no other digit can stand. -/
def stepFractionTail (n : Numeral) (b : UInt8) : Step :=
  if b == 0x65 || b == 0x45 then ([], some (.exponent n)) else stepPast n b

/-- One more digit of the whole part. Digits that do not fit are counted. -/
def addWhole (n : Numeral) (b : UInt8) : Mode :=
  match n.withDigit? (digit b) with
  | some n => .whole n
  | none => .wholeRest n.shifted

/-- One more digit of the fraction. Digits that do not fit are passed over. -/
def addFraction (n : Numeral) (b : UInt8) : Mode :=
  match n.withDigit? (digit b) with
  | some n => .fraction { n with shift := n.shift - 1 }
  | none => .fractionRest n

/-- A byte after a backslash. -/
def stepEscape (c : Content) (b : UInt8) : Step :=
  let plain (n : UInt8) : Step := ([], some (.text (c.addByte n)))
  match Char.ofNat b.toNat with
  | '"' | '\\' | '/' => plain b
  | 'b' => plain 0x08
  | 'f' => plain 0x0C
  | 'n' => plain 0x0A
  | 'r' => plain 0x0D
  | 't' => plain 0x09
  | 'u' => ([], some (.unit c 0 4))
  | _ => ([], none)

def step : Mode → UInt8 → Step
  | .between, b => stepBetween b
  | .word token (w :: rest), b =>
    if b != w then ([], none)
    else if rest.isEmpty then ([token], some .between)
    else ([], some (.word token rest))
  | .word _ [], _ => ([], none)
  | .text c, b =>
    -- A quotation mark ends the text, a backslash starts an escape, and control characters are out.
    if b == 0x22 then ([c.token], some .between)
    else if b == 0x5C then ([], some (.escape c))
    else if b < 0x20 then ([], none)
    else ([], some (.text (c.addByte b)))
  | .escape c, b => stepEscape c b
  | .unit c value left, b =>
    match hexDigit? b with
    | none => ([], none)
    | some d =>
      let value := value * 16 + d
      if left ≤ 1 then ([], some (.text (c.addUnit value)))
      else ([], some (.unit c value (left - 1)))
  | .minus, b => if isDigit b then ([], some (firstDigit true b)) else ([], none)
  -- No digit follows a leading zero.
  | .zero n, b => if isDigit b then ([], none) else stepTail n b
  | .whole n, b => if isDigit b then ([], some (addWhole n b)) else stepTail n b
  | .wholeRest n, b => if isDigit b then ([], some (.wholeRest n.shifted)) else stepTail n b
  | .point n, b => if isDigit b then ([], some (addFraction n b)) else ([], none)
  | .fraction n, b => if isDigit b then ([], some (addFraction n b)) else stepFractionTail n b
  | .fractionRest n, b =>
    if isDigit b then ([], some (.fractionRest n)) else stepFractionTail n b
  | .exponent n, b =>
    if isDigit b then ([], some (.exponentDigits n false (digit b)))
    else if b == 0x2B then ([], some (.exponentSign n false))
    else if b == 0x2D then ([], some (.exponentSign n true))
    else ([], none)
  | .exponentSign n negative, b =>
    if isDigit b then ([], some (.exponentDigits n negative (digit b))) else ([], none)
  | .exponentDigits n negative power, b =>
    if isDigit b then ([], some (.exponentDigits n negative (power * 10 + digit b)))
    else stepPast (scaled n negative power) b

/-- The tokens that the end of the text completes. -/
def finish : Mode → List Token
  | .between => []
  | .zero n | .whole n | .wholeRest n | .fraction n | .fractionRest n => [.number n]
  | .exponentDigits n negative power => [.number (scaled n negative power)]
  | _ => [.malformed]

/-- The tokens of the bytes that follow in a given mode. -/
def tokensFrom : Mode → List UInt8 → List Token
  | mode, [] => finish mode
  | mode, b :: rest =>
    match step mode b with
    | (tokens, some mode) => tokens ++ tokensFrom mode rest
    | (tokens, none) => tokens ++ [.malformed]

/-- The tokens of a text. -/
def tokens (bytes : List UInt8) : List Token := tokensFrom .between bytes

end SessionKeeper.Json
