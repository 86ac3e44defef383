/-!
Media types as a request names them: a type, a subtype with perhaps a suffix behind its last plus
sign, and parameters, which are checked and otherwise ignored.
-/

namespace SessionKeeper.Http

structure MediaType where
  main : List Char
  sub : List Char
  suffix : Option (List Char)
  deriving DecidableEq, Repr

namespace MediaType

/-- The characters of names and of values without quotation marks. -/
def isToken (c : Char) : Bool := c.isAlphanum || "!#$%&'*+-.^_`|~".toList.contains c

/-- Where in the parameters the reading stands. -/
inductive Place where
  | start
  | name
  | equals
  | value
  /-- Inside quotation marks; `empty` until something stands between them. -/
  | quoted (empty : Bool)
  | closed
  deriving DecidableEq, Repr

/-- The place after a character that may stand there. -/
def Place.after? : Place → Char → Option Place
  | .start, c => if c = ' ' then some .start else if isToken c then some .name else none
  | .name, c => if c = '=' then some .equals else if isToken c then some .name else none
  | .equals, c =>
    if c = '"' then some (.quoted true) else if isToken c then some .value else none
  | .value, c => if c = ';' then some .start else if isToken c then some .value else none
  | .quoted empty, c =>
    if c = '"' ∧ empty = false then some .closed
    else if 31 < c.toNat ∧ c.toNat ≠ 127 then some (.quoted false)
    else none
  | .closed, c => if c = ';' then some .start else if c = ' ' then some .closed else none

/-- Whether the parameters may end here. -/
def Place.mayEnd : Place → Bool
  | .name | .quoted _ => false
  | _ => true

/-- Whether the characters are parameters, read from a given place on. -/
def acceptsParameters : Place → List Char → Bool
  | place, [] => place.mayEnd
  | place, c :: rest =>
    match place.after? c with
    | some place => acceptsParameters place rest
    | none => false

/-- The subtype and the suffix in a subtype with its suffix. -/
def splitSuffix (cs : List Char) : List Char × Option (List Char) :=
  let suffix := (cs.reverse.takeWhile (· != '+')).reverse
  let before := cs.take (cs.length - suffix.length - 1)
  if before.isEmpty then (cs, none) else (before, some suffix)

/-- Reads a media type; the letters of its names count as lower case. -/
def ofText? (s : List Char) : Option MediaType :=
  let main := s.takeWhile isToken
  match s.dropWhile isToken with
  | '/' :: rest =>
    let names := (rest.takeWhile isToken).map Char.toLower
    let (sub, suffix) := splitSuffix names
    let type : MediaType := ⟨main.map Char.toLower, sub, suffix⟩
    if main.isEmpty then none
    else match rest.dropWhile isToken with
      | [] => some type
      | ';' :: parameters =>
        if !names.isEmpty && acceptsParameters .start parameters then some type else none
      | _ => none
  | _ => none

/-- Whether a body of this type is JSON. -/
def isJson (t : MediaType) : Bool :=
  let json := "json".toList
  t.main == "application".toList && (t.sub == json || t.suffix == some json)

end MediaType

end SessionKeeper.Http
