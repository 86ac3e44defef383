import SessionKeeper.Digest.Hmac
import SessionKeeper.Json.Writer
import SessionKeeper.Session.TokenHeader
import SessionKeeper.Text.Base64Url
import SessionKeeper.Text.Integer
import SessionKeeper.Timestamp

/-!
Access tokens: signed statements of who somebody is, good for ten minutes. A token is three parts
joined by points: a header, the claims, and the digest of both under a secret.

`issue` makes tokens. `validate` accepts a token whose signature is that of the secret, whose header
and claims are well-formed, and which has not expired; it looks at those in this order, so nothing
is learnt about a token that was not signed with the secret.
-/

namespace SessionKeeper.AccessToken

/-- Why a token is refused. -/
inductive Fault where
  | invalid
  | expired
  deriving DecidableEq, Repr

def Fault.message : Fault → String
  | .invalid => "Invalid token"
  | .expired => "Token expired"

/-- What a token says: for whom, until when and since when, in seconds of wall-clock time. -/
structure Claims where
  subject : String
  expires : Int
  issued : Int
  deriving DecidableEq, Repr

/-- How long a token is good for, in seconds. -/
def lifetime : Nat := 600

/-- How long a token is still accepted after it has expired, in seconds. -/
def leeway : Nat := 60

/-! ## Signing -/

def header : Json := .ofMembers [("typ", .ofText "JWT"), ("alg", .ofText "HS256")]

def Claims.toJson (c : Claims) : Json :=
  .ofMembers [("sub", .ofText c.subject), ("exp", .ofInt c.expires), ("iat", .ofInt c.issued)]

/-- A part of a token. -/
def part (value : Json) : List Char := Text.Base64Url.encode (Text.Utf8.encodeList value.write)

/-- The signature of a text. -/
def signature (secret : List UInt8) (input : List Char) : List Char :=
  Text.Base64Url.encode (Digest.hmac secret (Text.Utf8.encodeList input))

/-- The token that makes the given claims. -/
def sign (secret : List UInt8) (claims : Claims) : String :=
  let input := part header ++ '.' :: part claims.toJson
  String.ofList (input ++ '.' :: signature secret input)

/-- The claims of a token made for a user at a point of time. -/
def claimsFor (user : Int) (now : Timestamp) : Claims :=
  ⟨toString user, (now.after (lifetime * 1000000000)).seconds, now.seconds⟩

/-- The token for a user. -/
def issue (user : Int) (secret : List UInt8) (now : Timestamp) : String :=
  sign secret (claimsFor user now)

/-! ## Reading -/

/-- The text before the last `c`, and the text after it. -/
def splitLast? (c : Char) (cs : List Char) : Option (List Char × List Char) :=
  let last := cs.reverse.takeWhile (· != c)
  if last.length = cs.length then none
  else some ((cs.reverse.drop (last.length + 1)).reverse, last.reverse)

/-- The value in a part of a token. -/
def value? (part : List Char) : Option Json :=
  (Text.Base64Url.decode? part).bind fun bytes => (Json.Document.ofBytes bytes).value?

/-- The members of the object in a part of a token. -/
def members? (part : List Char) : Option (List (String × Json)) := (value? part).bind Json.members?

/-- The one value of a name, as an integer. -/
def int? (members : List (String × Json)) (name : String) : Option Int :=
  match Json.valuesOf members name with
  | [.number n] => n.int64?
  | _ => none

/-- The one value of a name, as a text. -/
def text? (members : List (String × Json)) (name : String) : Option String :=
  match Json.valuesOf members name with
  | [.text value] => some value
  | _ => none

/-- Whether a claim can be passed over that may be a text or a list of texts. -/
def canPass (value : Json) : Bool := value.passage Json.maxRoom ≠ .lost

/-- Whether a claim can be passed over that may be a number: no list or object is looked into. -/
def canPassNumber : Json → Bool
  | .list items => items.isEmpty
  | .object members => members.isEmpty
  | value => canPass value

/-- The claims that are not used. They have to be passed over all the same. -/
def unusedFields : List Json.Field :=
  [⟨"nbf", canPassNumber, false⟩, ⟨"iss", canPass, false⟩, ⟨"aud", canPass, false⟩]

/-- The claims of a token, if they are all there and none is made twice. -/
def claims? (members : List (String × Json)) : Option Claims :=
  if unusedFields.all (·.fits members) then do
    return ⟨← text? members "sub", ← int? members "exp", ← int? members "iat"⟩
  else none

/-- Whether the claims name an audience. -/
def hasAudience (members : List (String × Json)) : Bool :=
  (Json.valuesOf members "aud").any fun value => value.isText || value.isTexts

/-- The members of the claims of a token that bears the signature of the secret. -/
def signed? (token : List Char) (secret : List UInt8) : Option (List (String × Json)) := do
  let (input, mark) ← splitLast? '.' token
  let (head, body) ← splitLast? '.' input
  let header ← value? head
  -- The claims are read only if the signature is right.
  if acceptsHeader header && signature secret input == mark then members? body else none

/-- The user that a token was made for. -/
def validate (token : String) (secret : List UInt8) (now : Timestamp) : Except Fault Int :=
  match signed? token.toList secret with
  | none => .error .invalid
  | some members =>
    match claims? members with
    | none => .error .invalid
    | some claims =>
      -- The audience is looked at only in a token that has not expired.
      if claims.expires < 0 then .error .invalid
      else if claims.expires < now.seconds - leeway then .error .expired
      else if hasAudience members then .error .invalid
      else match Text.Integer.signed64 claims.subject.toList with
        | .ok user => .ok user
        | .error _ => .error .invalid

end SessionKeeper.AccessToken
