import LoginGate.Redact.Keyed
import LoginGate.Text.Word

/-!
# Redact/Rules — what is masked in log messages

Thirteen rules are applied one after the other, each to what the ones before it have left. They mask
signing secrets, compact tokens, tokens and passwords behind their key words, the passwords in
database addresses, the names in email addresses, and credentials in headers.
-/

namespace LoginGate.Redact

/-- An ASCII letter or digit. -/
def isAlnum (c : Char) : Bool := c.isAlphanum

/-- A character of base64url text. -/
def isTokenChar (c : Char) : Bool := isAlnum c || c = '_' || c = '-'

/-- A character of a token that may have several segments. -/
def isDottedChar (c : Char) : Bool := isTokenChar c || c = '.'

/-- The same without regard to letter case. -/
def isFoldedDottedChar (c : Char) : Bool :=
  isDottedChar c || c = 'ſ' || c = '\u212a' || c = '\u0130' || c = 'ı'

/-- Neither a blank nor a quote. -/
def isPlain (c : Char) : Bool := !(Text.isBlank c || isQuote c)

/-- A colon or an equals sign. -/
def isAssignment (c : Char) : Bool := c = ':' || c = '='

/-- A colon. -/
def isColon (c : Char) : Bool := c = ':'

/-- The key that signs. -/
def secretKey : Keyed := ⟨["secret", "key"], false, isAssignment, isTokenChar, 16⟩

/-- The secret of the token signer. -/
def jwtSecret : Keyed := ⟨["jwt", "secret"], true, isAssignment, isPlain, 8⟩

/-- An access token by name; a mask inside it may be masked again. -/
def accessToken : Keyed :=
  ⟨["access", "token"], false, isAssignment, fun c => isDottedChar c || c = '*', 20⟩

/-- A refresh token by name. -/
def refreshToken : Keyed := ⟨["refresh", "token"], false, isAssignment, isDottedChar, 20⟩

/-- Any token by name. -/
def anyToken : Keyed := ⟨["token"], false, isAssignment, isDottedChar, 20⟩

/-- A password. -/
def password : Keyed := ⟨["password"], true, isAssignment, isPlain, 1⟩

/-- A stored hash. -/
def passwordHash : Keyed := ⟨["password", "hash"], true, isAssignment, isPlain, 8⟩

/-- The header with credentials; its value may hold blanks. -/
def authorization : Keyed := ⟨["authorization"], true, isColon, fun c => !isQuote c, 10⟩

/-- The header with cookies; its value may hold blanks. -/
def cookie : Keyed := ⟨["cookie"], true, isColon, fun c => !isQuote c, 10⟩

/-- What stands in place of a compact token. -/
def compactMask : List Char := "***JWT***".toList

/-- A dot, and what follows it. -/
def afterDot? : List Char → Option (List Char)
  | '.' :: rest => some rest
  | _ => none

/-- **A compact token**: at a word boundary, `eyJ` and more, a dot, something, a dot. -/
def compactToken : Rule := fun before s =>
  match s with
  | 'e' :: 'y' :: 'J' :: rest =>
    if Text.isWordBoundary before (some 'e') then
      let second := rest.dropWhile isTokenChar
      match afterDot? second with
      | none => none
      | some body =>
        let third := body.dropWhile isTokenChar
        match afterDot? third with
        | none => none
        | some tail =>
          if second.length < rest.length ∧ third.length < body.length then
            some
              { size := s.length - (tail.dropWhile isTokenChar).length
                replacement := compactMask }
          else none
    else none
  | _ => none

/-- A token behind the word `bearer` and at least one blank. -/
def bearer : Rule := fun _ s =>
  match afterWord? true "bearer".toList s with
  | none => none
  | some rest =>
    let body := rest.dropWhile Text.isBlank
    let value := body.takeWhile isFoldedDottedChar
    if body.length < rest.length ∧ 20 ≤ value.length then
      some
        { size := s.length - (body.length - value.length)
          replacement := s.take (s.length - body.length) ++ mask }
    else none

/-- A plus sign and a word may follow the name of a database. -/
def afterDriver (s : List Char) : List Char :=
  match s with
  | '+' :: rest =>
    let tail := rest.dropWhile Text.isWord
    if tail.length < rest.length then tail else s
  | _ => s

/-- What follows the scheme of a database address. -/
def afterScheme? (s : List Char) : Option (List Char) :=
  match afterWord? false "postgres".toList s with
  | some rest => some (afterDriver ((afterWord? false "ql".toList rest).getD rest))
  | none => (afterWord? false "mysql".toList s).map afterDriver

/-- **The password in a database address**: between the first colon and the first `@` behind it. -/
def databaseUrl : Rule := fun _ s =>
  match afterScheme? s with
  | none => none
  | some rest =>
    match afterWord? false "://".toList rest with
    | none => none
    | some rest =>
      let atColon := rest.dropWhile (· ≠ ':')
      match atColon with
      | [] => none
      | _ :: secret =>
        let atSign := secret.dropWhile (· ≠ '@')
        match atSign with
        | [] => none
        | _ :: after =>
          if atColon.length < rest.length ∧ atSign.length < secret.length then
            some
              { size := s.length - after.length
                replacement := s.take (s.length - secret.length) ++ mask ++ ['@'] }
          else none

/-- A character of the name in an email address. -/
def isLocalChar (c : Char) : Bool :=
  isAlnum c || c = '.' || c = '_' || c = '%' || c = '+' || c = '-'

/-- A character of the domain in an email address. -/
def isDomainChar (c : Char) : Bool := isAlnum c || c = '.' || c = '-'

/-- **The longest domain at the start of a text**: it ends in a dot that is not its first character
and at least two letters. Gives the length. -/
def domainSize? : List Char → Option Nat
  | [] => none
  | c :: rest =>
    if isDomainChar c then
      match domainSize? rest with
      | some n => some (n + 1)
      | none =>
        match rest with
        | '.' :: tail =>
          let letters := tail.takeWhile Char.isAlpha
          if 2 ≤ letters.length then some (letters.length + 2) else none
        | _ => none
    else none

/-- The name in an email address. -/
def email : Rule := fun _ s =>
  let rest := s.dropWhile isLocalChar
  match rest with
  | '@' :: domain =>
    if rest.length < s.length then
      match domainSize? domain with
      | some n =>
        some
          { size := s.length - domain.length + n
            replacement := "***@".toList ++ domain.take n }
      | none => none
    else none
  | _ => none

/-- All rules, in the order of their application. -/
def rules : List Rule :=
  [secretKey.rule, jwtSecret.rule, compactToken, bearer, accessToken.rule, refreshToken.rule,
    anyToken.rule, password.rule, passwordHash.rule, databaseUrl, email, authorization.rule,
    cookie.rule]

/-- Apply all rules to a text. -/
def redactText (text : List Char) : List Char :=
  rules.foldl (fun s rule => replaceAll rule s) text

/-- **A message as it may be logged.** -/
def redact (message : String) : String := String.ofList (redactText message.toList)

end LoginGate.Redact
