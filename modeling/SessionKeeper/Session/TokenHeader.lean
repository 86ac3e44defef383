import SessionKeeper.Json.Passage
import SessionKeeper.Json.Shape

/-!
The header of a token: the algorithm that it is signed with, and perhaps what kind of token it is
and which key it was signed with. Only one algorithm is accepted. The rest is not used, and yet has
to be well-formed.
-/

namespace SessionKeeper.AccessToken

open Json (orNull isText isTexts isWordOf)

/-- A member that may be missing. -/
def optionalField (name : String) (accepts : Json → Bool) : Json.Field :=
  ⟨name, orNull accepts, false⟩

/-- A member that has to be there. -/
def requiredField (name : String) (accepts : Json → Bool) : Json.Field :=
  ⟨name, accepts, true⟩

/-- The algorithms that keys may be meant for. -/
def keyAlgorithms : List String :=
  ["HS256", "HS384", "HS512", "ES256", "ES384", "RS256", "RS384", "RS512", "PS256", "PS384",
   "PS512", "EdDSA", "RSA1_5", "RSA-OAEP", "RSA-OAEP-256"]

/-- One of these algorithms. In an object it may also stand over another object, an empty one. -/
def isKeyAlgorithm (value : Json) : Bool :=
  (value.word? fun under => under.isNull || under.isEmptyObject).any keyAlgorithms.contains

/-- What every description of a key may say of it. -/
def keyFields : List Json.Field :=
  [optionalField "use" isText, optionalField "key_ops" isTexts,
   optionalField "alg" isKeyAlgorithm, optionalField "kid" isText,
   optionalField "x5u" isText, optionalField "x5c" isTexts, optionalField "x5t" isText,
   optionalField "x5t#S256" isText]

/-- The names of the curves that keys may lie on. -/
def curves : List String := ["P-256", "P-384", "P-521", "Ed25519"]

/-- What the families of keys have to say of a key. -/
def keyFamilies : List (List Json.Field) :=
  [[requiredField "kty" (isWordOf ["EC"]), requiredField "crv" (isWordOf curves),
    requiredField "x" isText, requiredField "y" isText],
   [requiredField "kty" (isWordOf ["RSA"]), requiredField "n" isText, requiredField "e" isText],
   [requiredField "kty" (isWordOf ["oct"]), requiredField "k" isText],
   [requiredField "kty" (isWordOf ["OKP"]), requiredField "crv" (isWordOf curves),
    requiredField "x" isText]]

/-- Whether a value describes a key. Nothing in it may be unreadable. -/
def isKey (value : Json) : Bool :=
  match value.members? with
  | some members =>
    value.passage Json.maxRoom = .clear && keyFields.all (·.fits members)
      && keyFamilies.any fun family => family.all (·.fits members)
  | none => false

/-- The fields of a header, in the order of a header that is a list. -/
def headerFields : List Json.Field :=
  [optionalField "typ" isText, requiredField "alg" (isWordOf ["HS256"]),
   optionalField "cty" isText, optionalField "jku" isText, optionalField "jwk" isKey,
   optionalField "kid" isText, optionalField "x5u" isText, optionalField "x5c" isTexts,
   optionalField "x5t" isText, optionalField "x5t#S256" isText]

/-- Whether a header names the algorithm of this module and is otherwise well-formed. -/
def acceptsHeader (header : Json) : Bool := Json.Field.allFit headerFields header

end SessionKeeper.AccessToken
