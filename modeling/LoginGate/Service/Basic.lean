import LoginGate.Service.Argument
import LoginGate.Settings.Config
import LoginGate.Token.Signer

/-!
# Service — what is fixed while the service runs

The signer, the method for new passwords, how long a session lasts, and the supply of random values.
A service also keeps a hash that no password is registered under: a login with an unknown name is
checked against it, so that it costs as much as one with a known name.
-/

namespace LoginGate

/-- The fixed parts. -/
structure Service where
  signer : Signer
  hashMethod : String
  /-- What unknown names are checked against. -/
  decoyHash : String
  sessionSpan : Int
  supply : Supply

namespace Service

/-- Passwords are hashed under this method unless another one is chosen. -/
def defaultHashMethod : String := "scrypt"

/-- A span of time that can be reckoned with. -/
def spanOf (microseconds : Int) : Except Failure Int :=
  if Instant.isSpan microseconds then .ok microseconds else .error .noDate

/-- The signer of some settings. -/
def signerOf (t : Settings.Tokens) : Except Failure Signer := do
  let lifetime ← spanOf (t.accessTtlSeconds * Instant.perSecond)
  (Signer.make t.secret lifetime t.algorithm t.issuer).mapError .signer

/-- **A service for a configuration.** The password behind the decoy hash is of no account. -/
def make (config : Config) (hashMethod decoyPassword : String) (supply : Supply) :
    Except Failure Service := do
  let signer ← signerOf config.tokens
  let sessionSpan ← spanOf (config.tokens.sessionTtlDays * Instant.perDay)
  let decoyHash ← (Password.hash hashMethod decoyPassword (supply.salt 1)).mapError .password
  return { signer, hashMethod, decoyHash, sessionSpan, supply }

/-- The world of a fresh service: the decoy has used up the first salt. -/
def freshWorld (now : Instant) (threshold : Log.Level) : World :=
  { store := .empty, now, ids := 0, tokens := 0, salts := 1, faultIn := 0
    sink := .empty threshold }

/-- Compare a password with a hash. One that is no text is found out unless the hash has no parts.
-/
def checkPassword (password : Argument) (hash : String) : Act Bool :=
  match password with
  | .text password => Act.ofExcept ((Password.verify password hash).mapError .password)
  | _ =>
    if (Password.parts? hash.toList).isSome then Act.fail .notEncodable else return false

/-- A text as an identifier. -/
def parseId (field text : String) : Except Failure Uuid :=
  match Uuid.ofLoose? text.toList with
  | some id => .ok id
  | none => .error (.app (.malformedId field))

end Service
end LoginGate
