import LoginGate.Text.Category

/-!
# Registration — what a new account must look like

Eight rules in a fixed order: on the username, the email and the password. `firstBroken?` names the
first one that does not hold. Lengths count characters; the email rule is deliberately minimal, a
length window and an `@`.
-/

namespace LoginGate.Registration

/-- A rule that can be broken. -/
inductive Rule where
  | usernameLength
  | emailLength
  | emailFormat
  | passwordLength
  | passwordUppercase
  | passwordLowercase
  | passwordDigit
  | passwordSymbol
  deriving DecidableEq, Repr

namespace Rule

/-- The name that clients see. -/
def name : Rule → String
  | .usernameLength => "username_length"
  | .emailLength => "email_length"
  | .emailFormat => "email_format"
  | .passwordLength => "password_length"
  | .passwordUppercase => "password_uppercase"
  | .passwordLowercase => "password_lowercase"
  | .passwordDigit => "password_digit"
  | .passwordSymbol => "password_symbol"

/-- The sentence that goes with it. -/
def message : Rule → String
  | .usernameLength => "username must be between 3 and 30 characters"
  | .emailLength => "email must be between 5 and 50 characters"
  | .emailFormat => "invalid email format"
  | .passwordLength => "password must be at least 8 characters long"
  | .passwordUppercase => "password must contain at least one uppercase letter"
  | .passwordLowercase => "password must contain at least one lowercase letter"
  | .passwordDigit => "password must contain at least one number"
  | .passwordSymbol => "password must contain at least one special character"

end Rule

/-- A username has from 3 to 30 characters. -/
def brokenByUsername? (username : String) : Option Rule :=
  if 3 ≤ username.length ∧ username.length ≤ 30 then none else some .usernameLength

/-- An email has from 5 to 50 characters and an `@`. -/
def brokenByEmail? (email : String) : Option Rule :=
  if ¬(5 ≤ email.length ∧ email.length ≤ 50) then some .emailLength
  else if '@' ∈ email.toList then none
  else some .emailFormat

/-- A password has at least 8 characters, among them an upper-case letter, a lower-case letter, a
number, and a punctuation mark or symbol. -/
def brokenByPassword? (password : String) : Option Rule :=
  let cs := password.toList
  if password.length < 8 then some .passwordLength
  else if !cs.any Text.isUppercase then some .passwordUppercase
  else if !cs.any Text.isLowercase then some .passwordLowercase
  else if !cs.any Text.isNumber then some .passwordDigit
  else if !cs.any (fun c => Text.isPunctuation c || Text.isSymbol c) then some .passwordSymbol
  else none

/-- **The first rule that a registration breaks.** -/
def firstBroken? (username email password : String) : Option Rule :=
  (brokenByUsername? username).or ((brokenByEmail? email).or (brokenByPassword? password))

end LoginGate.Registration
