import SessionKeeper.Json.Document

/-!
The forms that clients send: a refresh token, and for some whether to end every session. A form is
an object with members of these names, or a list of the values in order.

A form is read in the order of its text, and the first thing wrong decides how the request is
answered: the text is no JSON there, or it is and does not fit the form.
-/

namespace SessionKeeper.Http

/-- Why a form cannot be read. -/
inductive FormFault where
  | malformed
  | mismatch
  deriving DecidableEq, Repr

def FormFault.status : FormFault → Nat
  | .malformed => 400
  | .mismatch => 422

structure Form where
  refreshToken : String
  everywhere : Bool := false
  deriving DecidableEq, Repr

namespace Form

inductive Field where
  | refreshToken
  | everywhere
  deriving DecidableEq, Repr

def Field.name : Field → String
  | .refreshToken => "refresh_token"
  | .everywhere => "everywhere"

/-- The values read so far. -/
structure Draft where
  refreshToken : Option String := none
  everywhere : Option Bool := none

namespace Draft

def has (d : Draft) : Field → Bool
  | .refreshToken => d.refreshToken.isSome
  | .everywhere => d.everywhere.isSome

/-- The fault of a value that is not the one wanted. -/
def misfit : Json → FormFault
  | .malformed | .unreadable _ => .malformed
  | .number n => if n.defect?.isSome then .malformed else .mismatch
  | _ => .mismatch

def put (d : Draft) : Field → Json → Except FormFault Draft
  | .refreshToken, .text s => .ok { d with refreshToken := some s }
  | .everywhere, .flag b => .ok { d with everywhere := some b }
  | _, value => .error (misfit value)

/-- The form, which has to have a token. -/
def finish (d : Draft) : Except FormFault Form :=
  match d.refreshToken with
  | some token => .ok ⟨token, d.everywhere.getD false⟩
  | none => .error .mismatch

end Draft

/-- Reads members in order. Names that are no field are passed over, with what is said of them. -/
def ofMembers (fields : List Field) : List (Option String × Json) → Draft → Except FormFault Form
  | [], draft => draft.finish
  | (none, _) :: _, _ => .error .malformed
  | (some name, value) :: rest, draft =>
    match fields.find? (·.name == name) with
    | none => if value.isWhole then ofMembers fields rest draft else .error .malformed
    | some field =>
      if draft.has field then .error .mismatch
      else match draft.put field value with
        | .ok draft => ofMembers fields rest draft
        | .error fault => .error fault

/-- Reads the values of the fields in order; there can be no more of them. -/
def ofItems : List Field → List Json → Draft → Except FormFault Form
  | _, [], draft => draft.finish
  | [], _ :: _, draft =>
    match draft.finish with
    | .ok _ => .error .malformed
    | .error fault => .error fault
  | field :: fields, item :: rest, draft =>
    match draft.put field item with
    | .ok draft => ofItems fields rest draft
    | .error fault => .error fault

def ofJson (fields : List Field) : Json → Except FormFault Form
  | .object members => ofMembers fields members {}
  | .list items => ofItems fields items {}
  | value => .error (Draft.misfit value)

/-- Reads a form with the given fields from a body that is nothing else. -/
def ofBody (fields : List Field) (body : List UInt8) : Except FormFault Form :=
  let doc := Json.Document.ofBytes body
  match ofJson fields doc.value with
  | .ok form => if doc.followed then .error .malformed else .ok form
  | .error fault => .error fault

end Form

end SessionKeeper.Http
