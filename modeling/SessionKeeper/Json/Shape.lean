import SessionKeeper.Json.Document

/-!
What is asked of a value: of its kind, and of its members by name.
-/

namespace SessionKeeper.Json

/-! ## Kinds -/

def isNull : Json → Bool
  | .null => true
  | _ => false

def isText : Json → Bool
  | .text _ => true
  | _ => false

/-- A list of texts. -/
def isTexts : Json → Bool
  | .list items => items.all isText
  | _ => false

/-- An object without members. -/
def isEmptyObject : Json → Bool
  | .object members => members.isEmpty
  | _ => false

/-- Null, or what a test accepts. -/
def orNull (accepts : Json → Bool) (value : Json) : Bool := value.isNull || accepts value

/-- A word: a text, or the one name of an object that holds nothing of note under it. -/
def word? (isBlank : Json → Bool) : Json → Option String
  | .text word => some word
  | .object [(some word, value)] => if isBlank value then some word else none
  | _ => none

/-- Whether a value is one of some words. -/
def isWordOf (words : List String) (value : Json) : Bool :=
  (value.word? isNull).any words.contains

/-! ## Members -/

/-- The members of an object whose names are all readable. -/
def members? : Json → Option (List (String × Json))
  | .object members => members.mapM fun (name, value) => name.map fun name => (name, value)
  | _ => none

/-- The values of the members with a name. -/
def valuesOf (members : List (String × Json)) (name : String) : List Json :=
  members.filterMap fun (n, value) => if n = name then some value else none

/-- A name, what may stand under it, and whether something has to. -/
structure Field where
  name : String
  accepts : Json → Bool
  required : Bool := false

namespace Field

/-- Whether the name occurs at most once among the members, and with a value that may be there. -/
def fits (field : Field) (members : List (String × Json)) : Bool :=
  match valuesOf members field.name with
  | [] => !field.required
  | [value] => field.accepts value
  | _ => false

/-- Whether a value is an object with these fields and perhaps others, or the list of the values of
these fields and no others. -/
def allFit (fields : List Field) : Json → Bool
  | .list items =>
    items.length == fields.length
      && (fields.zip items).all fun (field, value) => field.accepts value
  | value =>
    match value.members? with
    | some members => fields.all (·.fits members)
    | none => false

end Field

end SessionKeeper.Json
