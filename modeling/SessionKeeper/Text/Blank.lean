/-!
White space as Unicode defines it (the property White_Space), and texts without it at either end.
-/

namespace SessionKeeper.Text

/-- The 25 characters with the property White_Space. -/
def isBlank (c : Char) : Bool :=
  let n := c.toNat
  (9 ≤ n && n ≤ 13) || n == 0x20 || n == 0x85 || n == 0xA0 || n == 0x1680
    || (0x2000 ≤ n && n ≤ 0x200A) || n == 0x2028 || n == 0x2029 || n == 0x202F || n == 0x205F
    || n == 0x3000

/-- `cs` without the blanks at both its ends. -/
def trimList (cs : List Char) : List Char :=
  ((cs.dropWhile isBlank).reverse.dropWhile isBlank).reverse

/-- `s` without the blanks at both its ends. -/
def trim (s : String) : String := String.ofList (trimList s.toList)

/-- Runs of blanks as one space each, none at the ends. -/
def words : List Char → List Char → List (List Char)
  | [], [] => []
  | [], word => [word.reverse]
  | c :: cs, word =>
    if isBlank c then (if word.isEmpty then words cs [] else word.reverse :: words cs [])
    else words cs (c :: word)

/-- The words of `s`, one space between each two. -/
def collapse (s : String) : String :=
  String.ofList (List.intercalate [' '] (words s.toList []))

/-- The ASCII letters in lower case, all else as it is. -/
def lower (s : String) : String := String.ofList (s.toList.map Char.toLower)

end SessionKeeper.Text
