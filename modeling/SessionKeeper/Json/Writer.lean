import SessionKeeper.Json.Document

/-!
The compact text of a JSON value: no blanks, members in order, and no escape where none is needed.
-/

namespace SessionKeeper.Json

/-- A character as it is written inside a text. -/
def writeChar (c : Char) : List Char :=
  if c = '"' then ['\\', '"']
  else if c = '\\' then ['\\', '\\']
  else if c = '\x08' then ['\\', 'b']
  else if c = '\x0c' then ['\\', 'f']
  else if c = '\n' then ['\\', 'n']
  else if c = '\r' then ['\\', 'r']
  else if c = '\t' then ['\\', 't']
  else if c.toNat < 0x20 then
    ['\\', 'u', '0', '0', Nat.digitChar (c.toNat / 16), Nat.digitChar (c.toNat % 16)]
  else [c]

def writeText (s : String) : List Char := '"' :: s.toList.flatMap writeChar ++ ['"']

def Numeral.write (n : Numeral) : List Char :=
  let digits := (if n.negative then ['-'] else []) ++ Nat.toDigits 10 n.digits
  if n.integral && n.exponent == 0 then digits
  else digits ++ 'e' :: (toString n.exponent).toList

/-- A whole number. -/
def ofInt (n : Int) : Json :=
  .number { negative := n < 0, digits := n.natAbs, integral := true }

def ofText (s : String) : Json := .text s

/-- An object with the given members. -/
def ofMembers (members : List (String × Json)) : Json :=
  .object (members.map fun (name, value) => (some name, value))

mutual

/-- The text of a value. A part that denotes nothing is written as null. -/
def write : Json → List Char
  | .null | .malformed | .unreadable _ => ['n', 'u', 'l', 'l']
  | .flag true => ['t', 'r', 'u', 'e']
  | .flag false => ['f', 'a', 'l', 's', 'e']
  | .number n => n.write
  | .text s => writeText s
  | .list items => '[' :: writeItems items ++ [']']
  | .object members => '\x7b' :: writeMembers members ++ ['\x7d']

def writeItems : List Json → List Char
  | [] => []
  | [item] => item.write
  | item :: rest => item.write ++ ',' :: writeItems rest

def writeMembers : List (Option String × Json) → List Char
  | [] => []
  | [(name, value)] => writeText (name.getD "") ++ ':' :: value.write
  | (name, value) :: rest =>
    writeText (name.getD "") ++ ':' :: value.write ++ ',' :: writeMembers rest

end

end SessionKeeper.Json
