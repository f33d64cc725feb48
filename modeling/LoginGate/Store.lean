import LoginGate.Session

/-!
# Store — the accounts and sessions kept

Two tables, in the order of insertion. The store is the place where names are kept apart: no two
accounts share an identifier or a name, in either column, and no two sessions an identifier or a
refresh token. An operation that would break this is refused and changes nothing. Sessions of
unknown accounts are let in.
-/

namespace LoginGate

/-- The two tables. -/
structure Store where
  users : List User
  sessions : List Session
  deriving DecidableEq

namespace Store

/-- The store without accounts and sessions. -/
def empty : Store := ⟨[], []⟩

/-- Whether one of the names of a newcomer is the other kind of name of some account. -/
def hasCrossedName (s : Store) (newcomer : User) : Bool :=
  s.users.any fun u => u.username == newcomer.email || u.email == newcomer.username

/-- Whether an account agrees with a newcomer in a column that must be unique. -/
def hasSameColumn (s : Store) (newcomer : User) : Bool :=
  s.users.any fun u =>
    u.id == newcomer.id || u.email == newcomer.email || u.username == newcomer.username

/-- Add an account. -/
def addUser (s : Store) (u : User) : Store := { s with users := s.users ++ [u] }

/-- The account that answers to a login. -/
def userByLogin? (s : Store) (login : String) : Option User := s.users.find? (·.answersTo login)

/-- The account of an identifier. -/
def user? (s : Store) (id : Uuid) : Option User := s.users.find? (·.id == id)

/-- Set the blocked flag of an account. -/
def setBlocked (s : Store) (id : Uuid) (blocked : Bool) : Store :=
  { s with users := s.users.map fun u => if u.id = id then { u with isBlocked := blocked } else u }

/-- The session of a refresh token. -/
def sessionByToken? (s : Store) (token : String) : Option Session :=
  s.sessions.find? (·.refreshToken == token)

/-- Whether a session agrees with a newcomer in a column that must be unique. -/
def hasSession (s : Store) (newcomer : Session) : Bool :=
  s.sessions.any fun t => t.id == newcomer.id || t.refreshToken == newcomer.refreshToken

/-- Add a session. -/
def addSession (s : Store) (t : Session) : Store := { s with sessions := s.sessions ++ [t] }

/-- Whether a stored session is the one to be rotated: its identifier, its owner and the refresh
token that was presented all agree. -/
def isRotatable (renewed : Session) (previous : String) (t : Session) : Bool :=
  t.id == renewed.id && t.owner == renewed.owner && t.refreshToken == previous

/-- Whether the session to be rotated is there. -/
def canRotate (s : Store) (renewed : Session) (previous : String) : Bool :=
  s.sessions.any (isRotatable renewed previous)

/-- Whether another session than the one to be rotated holds the new refresh token. -/
def isTokenHeld (s : Store) (renewed : Session) (previous : String) : Bool :=
  s.sessions.any fun t =>
    t.refreshToken == renewed.refreshToken && !isRotatable renewed previous t

/-- Give the session to be rotated its new refresh token and dates. -/
def rotate (s : Store) (renewed : Session) (previous : String) : Store :=
  { s with
    sessions := s.sessions.map fun t =>
      if isRotatable renewed previous t then
        t.rotated renewed.refreshToken renewed.created renewed.expires
      else t }

/-- Delete a session of an owner. -/
def deleteSession (s : Store) (owner id : Uuid) : Store :=
  { s with sessions := s.sessions.filter fun t => !(t.id == id && t.owner == owner) }

/-- Delete all sessions of an owner. -/
def deleteSessions (s : Store) (owner : Uuid) : Store :=
  { s with sessions := s.sessions.filter fun t => !(t.owner == owner) }

end Store
end LoginGate
