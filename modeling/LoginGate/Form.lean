import LoginGate.Failure
import LoginGate.Uuid

/-!
# Form — what clients send

Three forms arrive as JSON objects. Reading one checks each field for its kind and its length in
characters, in the order of the fields, and collects every error; members that are no fields are
ignored. Whether a registration is acceptable is decided later.
-/

namespace LoginGate.Form

/-- The field of a document, checked for its kind. -/
def field {α : Type} (doc : Json) (name : String) (check : Json → Checked α) : Checked α :=
  Checked.under name
    (match doc.member? name with
     | none => .fail "missing"
     | some value => check value)

/-- A text with a least and, perhaps, a greatest length. -/
def textOf (least : Nat) (greatest : Option Nat) (value : Json) : Checked String := do
  let s ← value.asText
  if s.length < least then .fail "string_too_short"
  else if greatest.any (· < s.length) then .fail "string_too_long"
  else return s

/-- An identifier in one of its formatted layouts. -/
def uuidOf : Json → Checked Uuid
  | .text s =>
    match Uuid.ofFormatted? s.toList with
    | some u => .ok u
    | none => .fail "uuid_parsing"
  | .brokenText => .fail "string_unicode"
  | _ => .fail "uuid_type"

/-- Read a form from a document, which must be an object. -/
def ofObject {α : Type} (doc : Json) (read : Json → Checked α) : Checked α :=
  match doc with
  | .object _ => read doc
  | _ => .fail "model_type"

end LoginGate.Form

namespace LoginGate

/-- A request for an account. -/
structure RegisterForm where
  username : String
  email : String
  password : String
  deriving DecidableEq

/-- A request for a session. -/
structure LoginForm where
  login : String
  password : String
  deriving DecidableEq

/-- A request to end a session. -/
structure LogoutForm where
  sessionId : Uuid
  deriving DecidableEq

/-- Read a request for an account; names and addresses of more than 256
characters are refused. -/
def RegisterForm.ofJson (doc : Json) : Checked RegisterForm :=
  Form.ofObject doc fun doc => do
    let (username, email, password) ←
      Checked.both (Form.field doc "username" (Form.textOf 0 (some 256)))
        (Checked.both (Form.field doc "email" (Form.textOf 0 (some 256)))
          (Form.field doc "password" (Form.textOf 0 none)))
    return { username, email, password }

/-- Read a request for a session. -/
def LoginForm.ofJson (doc : Json) : Checked LoginForm :=
  Form.ofObject doc fun doc => do
    let (login, password) ←
      Checked.both (Form.field doc "login" (Form.textOf 1 (some 256)))
        (Form.field doc "password" (Form.textOf 1 none))
    return { login, password }

/-- Read a request to end a session. -/
def LogoutForm.ofJson (doc : Json) : Checked LogoutForm :=
  Form.ofObject doc fun doc => do
    let sessionId ← Form.field doc "session_id" Form.uuidOf
    return { sessionId }

end LoginGate
