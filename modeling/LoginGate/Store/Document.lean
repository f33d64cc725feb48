import LoginGate.Json.Value
import LoginGate.Store

/-!
# Store/Document — a store as a JSON document

Two arrays of objects, each sorted by identifier. Instants are whole microseconds.
-/

namespace LoginGate

/-- An account as an object. -/
def User.toJson (u : User) : Json :=
  .object [("id", .text u.id.text), ("email", .text u.email), ("username", .text u.username),
    ("password_hash", .text u.passwordHash), ("created_us", .int u.created),
    ("is_blocked", .bool u.isBlocked)]

/-- A session as an object. -/
def Session.toJson (s : Session) : Json :=
  .object [("id", .text s.id.text), ("user_id", .text s.owner.text),
    ("refresh_token", .text s.refreshToken), ("created_us", .int s.created),
    ("expires_us", .int s.expires), ("user_agent", .text s.userAgent),
    ("client_ip", (s.clientIp.map Json.text).getD .null)]

namespace Json

/-- The text of a member. -/
def memberText? (doc : Json) (name : String) : Option String :=
  match doc.member? name with
  | some (.text s) => some s
  | _ => none

/-- The integer of a member. -/
def memberInt? (doc : Json) (name : String) : Option Int :=
  match doc.member? name with
  | some (.int n) => some n
  | _ => none

/-- The identifier of a member. -/
def memberUuid? (doc : Json) (name : String) : Option Uuid :=
  (doc.memberText? name).bind fun s => Uuid.ofLoose? s.toList

/-- The items of a member. -/
def memberItems? (doc : Json) (name : String) : Option (List Json) :=
  match doc.member? name with
  | some (.array items) => some items
  | _ => none

end Json

/-- An account from an object. -/
def User.ofJson? (doc : Json) : Option User := do
  let id ← doc.memberUuid? "id"
  let email ← doc.memberText? "email"
  let username ← doc.memberText? "username"
  let passwordHash ← doc.memberText? "password_hash"
  let created ← doc.memberInt? "created_us"
  some { id, email, username, passwordHash, created
         isBlocked := ((doc.member? "is_blocked").getD .null).isTruthy }

/-- A session from an object; nothing need be known of the device. -/
def Session.ofJson? (doc : Json) : Option Session := do
  let id ← doc.memberUuid? "id"
  let owner ← doc.memberUuid? "user_id"
  let refreshToken ← doc.memberText? "refresh_token"
  let created ← doc.memberInt? "created_us"
  let expires ← doc.memberInt? "expires_us"
  some { id, owner, refreshToken, created, expires
         userAgent := (doc.memberText? "user_agent").getD ""
         clientIp := doc.memberText? "client_ip" }

namespace Store

/-- **A store as a document.** -/
def toJson (s : Store) : Json :=
  let users := s.users.mergeSort fun a b => decide (a.id.value ≤ b.id.value)
  let sessions := s.sessions.mergeSort fun a b => decide (a.id.value ≤ b.id.value)
  .object [("users", .array (users.map User.toJson)),
    ("sessions", .array (sessions.map Session.toJson))]

/-- A store from a document. -/
def ofJson? (doc : Json) : Option Store := do
  let users ← (← doc.memberItems? "users").mapM User.ofJson?
  let sessions ← (← doc.memberItems? "sessions").mapM Session.ofJson?
  some ⟨users, sessions⟩

end Store
end LoginGate
