import SessionKeeper.Json.Writer

/-!
Requests and responses.
-/

namespace SessionKeeper.Http

structure Request where
  method : String
  /-- The path, perhaps with a scheme and a host in front of it, and a query and a fragment behind
  it. -/
  target : String
  /-- Names and values, the names in any case. -/
  headers : List (String × List UInt8) := []
  body : List UInt8 := []

structure Response where
  status : Nat
  body : Option Json := none

namespace Request

/-- Whether a character may stand in the name of a scheme. -/
def isSchemeChar (c : Char) : Bool := c.isAlphanum || c == '+' || c == '-' || c == '.'

/-- The text behind the host, in a text that starts with a scheme. -/
def afterHost? (cs : List Char) : Option (List Char) :=
  match cs.dropWhile isSchemeChar with
  | ':' :: '/' :: '/' :: rest => some (rest.dropWhile fun c => c != '/' && c != '?' && c != '#')
  | _ => none

/-- The path in the target. Behind a host it may be missing; then it is the root. -/
def path (r : Request) : String :=
  let upToQuery := List.takeWhile fun c : Char => c != '?' && c != '#'
  match afterHost? r.target.toList with
  | none => String.ofList (upToQuery r.target.toList)
  | some rest =>
    let path := upToQuery rest
    if path.isEmpty then "/" else String.ofList path

/-- The text of a header value; there is none if a byte is not visible ASCII, a space or a tab. -/
def headerText? (value : List UInt8) : Option (List Char) :=
  if value.all fun b => (0x20 ≤ b && b < 0x7F) || b == 0x09 then
    some (value.map fun b => Char.ofNat b.toNat)
  else none

/-- The text of the first header with a name, which is given in lower case. -/
def header? (r : Request) (name : String) : Option (List Char) :=
  (r.headers.find? fun header => header.1.map Char.toLower == name).bind (headerText? ·.2)

end Request

end SessionKeeper.Http
