import LoginGate.Json.Encoded
import LoginGate.Text.Split

/-!
# Token/Key — secrets that are keys of another kind

A signing secret that looks like a public or private key in one of the usual wrappings is refused: a
public key must never serve as a shared secret. The wrappings are armoured keys with a begin and an
end marker, keys of the secure shell, and keys as JSON objects.
-/

namespace LoginGate.Key

/-- The labels of armoured keys and certificates. -/
def armourLabels : List String :=
  ["CERTIFICATE", "TRUSTED CERTIFICATE", "PRIVATE KEY", "PUBLIC KEY", "ENCRYPTED PRIVATE KEY",
    "OPENSSH PRIVATE KEY", "DSA PRIVATE KEY", "RSA PRIVATE KEY", "RSA PUBLIC KEY", "EC PRIVATE KEY",
    "DH PARAMETERS", "NEW CERTIFICATE REQUEST", "CERTIFICATE REQUEST", "SSH2 PUBLIC KEY",
    "SSH2 ENCRYPTED PRIVATE KEY", "X509 CRL"]

/-- The kinds of shell keys. -/
def shellKinds : List String :=
  ["ssh-ed25519", "ssh-rsa", "ssh-dss", "ecdsa-sha2-nistp256", "ecdsa-sha2-nistp384",
    "ecdsa-sha2-nistp521"]

/-- Whether a text starts with a word. -/
def startsWith (word : String) (s : List Char) : Bool := word.toList.isPrefixOf s

/-- What follows a marker at the start of a text; the fifth character from either end is a hyphen or
a blank. -/
def afterMarker? (word : String) : List Char → Option (List Char)
  | '-' :: '-' :: '-' :: '-' :: c :: rest =>
    if (c = '-' ∨ c = ' ') ∧ startsWith word rest then
      match rest.drop word.length with
      | d :: '-' :: '-' :: '-' :: '-' :: rest => if d = '-' ∨ d = ' ' then some rest else none
      | _ => none
    else none
  | _ => none

/-- Whether an end marker follows the last begin marker before it with something in between;
`since` counts the characters since a begin marker. -/
def holdsArmour (label : String) : (fuel : Nat) → (since : Option Nat) → List Char → Bool
  | 0, _, _ => false
  | _, _, [] => false
  | fuel + 1, since, c :: rest =>
    match afterMarker? ("BEGIN " ++ label) (c :: rest) with
    | some after => holdsArmour label fuel (some 0) after
    | none =>
      (since.any (0 < ·) && (afterMarker? ("END " ++ label) (c :: rest)).isSome) ||
        holdsArmour label fuel (since.map (· + 1)) rest

/-- Whether a begin marker and later an end marker of one label occur. -/
def isArmoured (s : List Char) : Bool :=
  armourLabels.any fun label => holdsArmour label s.length none s

/-- Whether a text begins like a shell key. -/
def isShellKey (s : List Char) : Bool := shellKinds.any (startsWith · s)

mutual

/-- Whether a document holds, at any depth, an object that says what kind of key it is. -/
def holdsKey : Json → Bool
  | .array items => anyHoldsKey items
  | .object members => (Json.lookup? "kty" members).isSome || anyMemberHoldsKey members
  | _ => false

/-- Whether one of some documents holds a key. -/
def anyHoldsKey : List Json → Bool
  | [] => false
  | doc :: rest => holdsKey doc || anyHoldsKey rest

/-- Whether the value of one of some members holds a key. -/
def anyMemberHoldsKey : List (String × Json) → Bool
  | [] => false
  | (_, doc) :: rest => holdsKey doc || anyMemberHoldsKey rest

end

/-- The name of the member that says what kind of key an object is, as it is usually written. -/
def kindMember : List Char := "\"kty\"".toList

/-- Whether a text is a JSON document that holds a key. A document beyond the limits of the reader
does if it mentions the kind of a key. -/
def isJsonKey (secret : String) : Bool :=
  match Json.ofBytes (Bytes.ofText secret) with
  | .ok doc => holdsKey doc
  | .error .malformed => false
  | .error _ => Text.occursIn kindMember secret.toList

/-- **Whether a secret is a key of another kind.** -/
def isForeign (secret : String) : Bool :=
  isArmoured secret.toList || isShellKey secret.toList || isJsonKey secret

end LoginGate.Key
