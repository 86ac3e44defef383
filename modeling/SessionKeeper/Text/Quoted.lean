import SessionKeeper.Text.Unprintable

/-!
Quoted text: between two quotation marks, with a backslash in front of a quotation mark or a
backslash, short names for the common controls, and the code point in hexadecimal for every other
character that could not be seen.
-/

namespace SessionKeeper.Text.Quoted

/-- A code point as it is written inside a quoted text. -/
def byNumber (c : Char) : List Char :=
  '\\' :: 'u' :: '\x7b' :: Nat.toDigits 16 c.toNat ++ ['\x7d']

/-- One character as it is written inside a quoted text. -/
def encodeChar (c : Char) : List Char :=
  if c = '"' then ['\\', '"']
  else if c = '\\' then ['\\', '\\']
  else if c = '\n' then ['\\', 'n']
  else if c = '\t' then ['\\', 't']
  else if c = '\r' then ['\\', 'r']
  else if c = '\x00' then ['\\', '0']
  else if isUnprintable c then byNumber c
  else [c]

def encode (s : String) : String :=
  String.ofList ('"' :: s.toList.flatMap encodeChar ++ ['"'])

end SessionKeeper.Text.Quoted
