import LoginGate.Instant
import LoginGate.Uuid

/-!
# Session — accounts and the sessions opened on them

An account has two names to log in with, its username and its email. A session is one login on one
device; it goes by its refresh token, which changes with every refresh, while its identifier, its
owner and what is known of the device stay.
-/

namespace LoginGate

/-- An account. -/
structure User where
  id : Uuid
  email : String
  username : String
  passwordHash : String
  created : Instant
  isBlocked : Bool
  deriving DecidableEq

/-- A session. -/
structure Session where
  id : Uuid
  owner : Uuid
  refreshToken : String
  created : Instant
  expires : Instant
  userAgent : String
  clientIp : Option String
  deriving DecidableEq

/-- Whether a text is one of the two names that an account answers to. -/
def User.answersTo (u : User) (login : String) : Bool := u.username == login || u.email == login

namespace Session

/-- **A session is expired from its expiry on.** -/
def isExpired (s : Session) (now : Instant) : Bool := s.expires ≤ now

/-- The characters kept of what a device says it is. -/
def userAgentWidth : Nat := 512

/-- The characters kept of an address. -/
def clientIpWidth : Nat := 64

/-- A text cut to a width. -/
def clamp (width : Nat) (s : String) : String := String.ofList (s.toList.take width)

/-- The session after a refresh. -/
def rotated (s : Session) (token : String) (created expires : Instant) : Session :=
  { s with refreshToken := token, created, expires }

end Session
end LoginGate
