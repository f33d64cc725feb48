import LoginGate.Failure
import LoginGate.Instant
import LoginGate.Uuid

/-!
# Token/Claims — what an access token asserts, and when to believe it

The claims are the members of a JSON object. Judging them needs the issuer expected, if any, and the
current second; the outcome is the user's identifier or a denial. The rules are tried in a fixed
order, and only the expiry has a denial of its own.
-/

namespace LoginGate.Claims

/-- The members of the object inside a token. -/
abbrev Members := List (String × Json)

/-- A claim as a whole number: numbers lose their fraction, truth values count as 0 and 1, and texts
are read as integers. -/
def wholeNumber? : Json → Option Int
  | .int n => some n
  | .real x => x.truncate?
  | .bool b => some (if b then 1 else 0)
  | .text s => Number.integer? 10 s.toList
  | _ => none

/-- Whether a claim is there and not null. -/
def isGiven (members : Members) (name : String) : Bool :=
  match Json.lookup? name members with
  | none | some .null => false
  | some _ => true

/-- Whether a claim is missing, or a second that has come. -/
def hasCome (members : Members) (name : String) (now : Int) : Bool :=
  match Json.lookup? name members with
  | none => true
  | some value =>
    match wholeNumber? value with
    | some n => n ≤ now
    | none => false

/-- The second from which on the token is expired. -/
def expiry? (members : Members) : Option Int := (Json.lookup? "exp" members).bind wholeNumber?

/-- Whether the claim `iss` is the issuer expected. -/
def issuerFits (issuer : Option String) (members : Members) : Bool :=
  match issuer with
  | none => true
  | some expected =>
    match Json.lookup? "iss" members with
    | some (.text s) => s == expected
    | _ => false

/-- Whether the token is meant for no audience in particular. -/
def isForAnyone (members : Members) : Bool :=
  match Json.lookup? "aud" members with
  | none => true
  | some audience => !audience.isTruthy

/-- Whether a claim is missing or a text. -/
def isTextIfGiven (members : Members) (name : String) : Bool :=
  match Json.lookup? name members with
  | none | some (.text _) | some .brokenText => true
  | some _ => false

/-- The user that the claim `sub` names. -/
def subject? (members : Members) : Option Uuid :=
  match Json.lookup? "sub" members with
  | some (.text s) => if s = "" then none else Uuid.ofLoose? s.toList
  | _ => none

/-- Whether an expiry and a user are given. -/
def isComplete (members : Members) : Bool := isGiven members "exp" && isGiven members "sub"

/-- **Judge some claims** at a second of the clock. -/
def judge (issuer : Option String) (members : Members) (now : Int) : Except Denial Uuid :=
  if !(hasCome members "iat" now && hasCome members "nbf" now) then .error .invalidToken
  else
    match expiry? members with
    | none => .error .invalidToken
    | some expiry =>
      if expiry ≤ now then .error .tokenExpired
      else if !(issuerFits issuer members && isForAnyone members && isTextIfGiven members "sub" &&
          isTextIfGiven members "jti") then .error .invalidToken
      else
        match subject? members with
        | some user => .ok user
        | none => .error .invalidToken

end LoginGate.Claims
