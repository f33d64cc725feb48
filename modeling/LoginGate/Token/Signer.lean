import LoginGate.Bytes.Base64Url
import LoginGate.Digest.Hmac
import LoginGate.Json.Writer
import LoginGate.Token.Claims
import LoginGate.Token.Key

/-!
# Token/Signer — signed access tokens

A token is three segments with dots between: a header and the claims, both JSON in base64url, and
the keyed digest of the first two. `issue` writes one. `open?` checks everything about a token that
does not depend on the clock or on the claims and gives the claims back; `verify` judges those.
-/

namespace LoginGate

/-- How tokens are signed, and for how long. -/
structure Signer where
  secret : String
  lifetime : Int
  algorithm : String
  issuer : Option String
  deriving DecidableEq

namespace Signer

/-- A signer; the secret must not be empty. -/
def make (secret : String) (lifetime : Int) (algorithm : String) (issuer : Option String) :
    Except SignerError Signer :=
  if secret = "" then .error .emptySecret else .ok { secret, lifetime, algorithm, issuer }

/-- The digest of an algorithm. -/
def digest? (algorithm : String) : Option Hash :=
  if algorithm = "HS256" then some .sha256
  else if algorithm = "HS384" then some .sha384
  else if algorithm = "HS512" then some .sha512
  else none

/-- The name of the algorithm that signs nothing, which takes no secret. -/
def unsigned : String := "none"

/-- The signature of a text, unless the secret cannot be used for it. -/
def signature (s : Signer) (signed : List Char) : Except SignerError (List UInt8) :=
  if s.algorithm = unsigned then .error .unusableKey
  else
    match digest? s.algorithm with
    | none => .error .unknownAlgorithm
    | some hash =>
      if Key.isForeign s.secret then .error .unusableKey
      else .ok (hmac hash (Bytes.ofText s.secret) (Bytes.utf8 signed))

/-- A JSON document as a segment. -/
def segment (doc : Json) : List Char :=
  Bytes.toBase64Url (Bytes.utf8 (Json.write .compact doc))

/-- The header of a token. -/
def header (algorithm : String) : Json :=
  .object [("alg", .text algorithm), ("typ", .text "JWT")]

/-- The claims for a user, from one second on and until another. -/
def claims (s : Signer) (user : Uuid) (issued expiry : Int) : Claims.Members :=
  [("sub", .text user.text), ("iat", .int issued), ("exp", .int expiry)] ++
    match s.issuer with
    | some issuer => if issuer = "" then [] else [("iss", .text issuer)]
    | none => []

/-- The text of a token that is signed: a header and some claims. -/
def signedText (algorithm : String) (claims : Claims.Members) : List Char :=
  segment (header algorithm) ++ '.' :: segment (.object claims)

/-- **Issue a token** at an instant; the expiry must be a date. -/
def issue (s : Signer) (user : Uuid) (now : Instant) : Except Failure String :=
  match Instant.plus? now s.lifetime with
  | none => .error .noDate
  | some expiry =>
    let claims := s.claims user (Instant.second now) (Instant.second expiry)
    let signed := signedText s.algorithm claims
    match s.signature signed with
    | .error e => .error (.signer e)
    | .ok bytes => .ok (String.ofList (signed ++ '.' :: Bytes.toBase64Url bytes))

/-- The object that a segment holds. -/
def objectOf? (bytes : List UInt8) : Option Claims.Members :=
  match Json.ofBytes bytes with
  | .ok (.object members) => some members
  | _ => none

/-- Whether the extensions that a header declares critical are all known and used: `b64` is. -/
def criticalFits (members : Claims.Members) : Bool :=
  match Json.lookup? "crit" members with
  | none => true
  | some (.array names) =>
    !names.isEmpty && (Json.lookup? "b64" members).isSome &&
      names.all fun name =>
        match name with
        | .text s => s == "b64"
        | _ => false
  | some _ => false

/-- Whether a header is one of tokens in general: a named key is named by a text, and the claims are
not detached. -/
def headerFits (members : Claims.Members) : Bool :=
  Claims.isTextIfGiven members "kid" && criticalFits members &&
    (match Json.lookup? "b64" members with
     | some (.bool false) => false
     | _ => true)

/-- Whether a header names an algorithm. -/
def namesAlgorithm (members : Claims.Members) (algorithm : String) : Bool :=
  match Json.lookup? "alg" members with
  | some (.text s) => s == algorithm && s != ""
  | _ => false

/-- The parts of a token: the text that is signed, the header, the claims' bytes, the signature. -/
structure Parts where
  signed : List Char
  header : Claims.Members
  body : List UInt8
  signature : List UInt8

/-- Take a token apart. The signature follows the last dot, and the header ends at the first. -/
def parts? (token : List Char) : Option Parts := do
  let (signed, tail) ← Text.splitLast? '.' token
  let (head, body) ← Text.splitFirst? '.' signed
  let headBytes ← Bytes.ofBase64Url? head
  let header ← objectOf? headBytes
  let body ← Bytes.ofBase64Url? body
  let signature ← Bytes.ofBase64Url? tail
  if headerFits header then some { signed, header, body, signature } else none

/-- **The claims of an authentic token**: `none` if the token is not one of this signer's. A secret
that cannot be used is an error of its own, met once the token names the signer's algorithm. -/
def open? (s : Signer) (token : String) : Except SignerError (Option Claims.Members) :=
  match parts? token.toList with
  | none => .ok none
  | some parts =>
    if !namesAlgorithm parts.header s.algorithm then .ok none
    else
      match s.signature parts.signed with
      | .error .unknownAlgorithm => .ok none
      | .error e => .error e
      | .ok expected => if parts.signature = expected then .ok (objectOf? parts.body) else .ok none

/-- **Verify a token** at an instant, which must be a date once the claims turn to it. -/
def verify (s : Signer) (token : String) (now : Instant) : Except Failure Uuid :=
  match s.open? token with
  | .error e => .error (.signer e)
  | .ok none => .error (.denied .invalidToken)
  | .ok (some claims) =>
    if !Claims.isComplete claims then .error (.denied .invalidToken)
    else if !Instant.isDate now then .error .noDate
    else
      match Claims.judge s.issuer claims (Instant.clockSecond now) with
      | .ok user => .ok user
      | .error denial => .error (.denied denial)

end Signer
end LoginGate
