import SessionKeeper.Json.Token

/-!
JSON values, and the value at the start of a text. A value breaks off where its text is malformed:
each list or object open at that point ends in a part that is `malformed`. Reading a value from left
to right therefore meets its faults in the order of the text, and whatever stands in front of a
fault can still be read.
-/

namespace SessionKeeper

inductive Json where
  | null
  | flag (value : Bool)
  | number (n : Json.Numeral)
  | text (value : String)
  /-- A text that denotes nothing. -/
  | unreadable (defect : Json.Defect)
  | list (items : List Json)
  /-- Members in the order of the text. A name that denotes no text, or is missing because the text
  is malformed, is none. -/
  | object (members : List (Option String × Json))
  | malformed

namespace Json

mutual

/-- Whether no part of the value is malformed. -/
def isWhole : Json → Bool
  | .malformed => false
  | .list items => wholeItems items
  | .object members => wholeMembers members
  | _ => true

def wholeItems : List Json → Bool
  | [] => true
  | item :: rest => item.isWhole && wholeItems rest

def wholeMembers : List (Option String × Json) → Bool
  | [] => true
  | (_, value) :: rest => value.isWhole && wholeMembers rest

end

/-- A list or an object of which a part is read, the last part first. -/
inductive Frame where
  | list (items : List Json)
  /-- An object, and the name of the member to come. -/
  | object (members : List (Option String × Json)) (name : Option String)

/-- The frame with one more part, as a value. -/
def Frame.close (value : Json) : Frame → Json
  | .list items => .list (value :: items).reverse
  | .object members name => .object ((name, value) :: members).reverse

/-- What the next token is to be. -/
inductive Expect where
  | value
  /-- A value, or the end of the list just opened. -/
  | valueOrClose
  | name
  /-- A name, or the end of the object just opened. -/
  | nameOrClose
  | colon
  | commaOrClose
  deriving DecidableEq, Repr

/-- What a token leads to. -/
inductive Progress where
  | reading (frames : List Frame) (expect : Expect)
  | complete (value : Json)
  | fault

/-- A value is complete; it becomes part of the innermost frame. -/
def Progress.put (value : Json) : List Frame → Progress
  | [] => .complete value
  | .list items :: frames => .reading (.list (value :: items) :: frames) .commaOrClose
  | .object members name :: frames =>
    .reading (.object ((name, value) :: members) none :: frames) .commaOrClose

/-- The first token of a value. -/
def Progress.begin (frames : List Frame) : Token → Progress
  | .openObject => .reading (.object [] none :: frames) .nameOrClose
  | .openList => .reading (.list [] :: frames) .valueOrClose
  | .null => .put .null frames
  | .flag value => .put (.flag value) frames
  | .number n => .put (.number n) frames
  | .text value => .put (.text value) frames
  | .unreadable defect => .put (.unreadable defect) frames
  | _ => .fault

/-- The name of a member. -/
def Progress.named (members : List (Option String × Json)) (frames : List Frame) :
    Token → Progress
  | .text name => .reading (.object members (some name) :: frames) .colon
  | .unreadable _ => .reading (.object members none :: frames) .colon
  | _ => .fault

def Progress.after : List Frame → Expect → Token → Progress
  | frames, .value, token => .begin frames token
  | .list items :: frames, .valueOrClose, .closeList => .put (.list items.reverse) frames
  | frames, .valueOrClose, token => .begin frames token
  | .object members _ :: frames, .name, token => .named members frames token
  | .object members _ :: frames, .nameOrClose, .closeObject =>
    .put (.object members.reverse) frames
  | .object members _ :: frames, .nameOrClose, token => .named members frames token
  | frames, .colon, .colon => .reading frames .value
  -- A comma calls for another part: no list or object ends in one.
  | .list items :: frames, .commaOrClose, .comma => .reading (.list items :: frames) .value
  | .object members _ :: frames, .commaOrClose, .comma =>
    .reading (.object members none :: frames) .name
  | .list items :: frames, .commaOrClose, .closeList => .put (.list items.reverse) frames
  | .object members _ :: frames, .commaOrClose, .closeObject =>
    .put (.object members.reverse) frames
  | _, _, _ => .fault

/-- A value and whether anything follows it. -/
structure Document where
  value : Json
  followed : Bool

namespace Document

/-- The value that breaks off inside the given frames. -/
def broken (frames : List Frame) : Document :=
  ⟨frames.foldl (fun value frame => frame.close value) .malformed, false⟩

def ofTokensFrom : List Frame → Expect → List Token → Document
  | frames, _, [] => broken frames
  | frames, expect, token :: rest =>
    match Progress.after frames expect token with
    | .reading frames expect => ofTokensFrom frames expect rest
    | .complete value => ⟨value, !rest.isEmpty⟩
    | .fault => broken frames

/-- The document in a text. -/
def ofBytes (bytes : List UInt8) : Document := ofTokensFrom [] .value (tokens bytes)

/-- The value of a document that is whole and has nothing behind it. -/
def value? (doc : Document) : Option Json :=
  if doc.value.isWhole && !doc.followed then some doc.value else none

end Document

end Json

end SessionKeeper
