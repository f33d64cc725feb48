import LoginGate.Password.Method
import LoginGate.Bytes.Utf8
import LoginGate.Bytes.Hex

/-!
# Password/Hash — stored hashes

A stored hash is `method$salt$key`: the text of the method, the salt, and the key in hexadecimal. It
holds all that is needed to check a password against it, so the method of the day does not matter
later.
-/

namespace LoginGate.Password

/-- The key of a password, in hexadecimal. -/
def Method.key (method : Method) (password salt : List Char) : List Char :=
  Bytes.toHex (method.derive (Bytes.utf8 password) (Bytes.utf8 salt))

/-- A stored hash, written out. -/
def Method.hash (method : Method) (password salt : List Char) : List Char :=
  method.text ++ '$' :: salt ++ '$' :: method.key password salt

/-- **Hash a password** under a method given by its text. -/
def hash (method password salt : String) : Except PasswordError String := do
  let m ← Method.ofText method.toList
  return String.ofList (m.hash password.toList salt.toList)

/-- The three parts of a stored hash: it is cut at its first two `$`. -/
def parts? (stored : List Char) : Option (List Char × List Char × List Char) :=
  match Text.splitFirst? '$' stored with
  | none => none
  | some (method, rest) =>
    match Text.splitFirst? '$' rest with
    | none => none
    | some (salt, key) => some (method, salt, key)

/-- Compare a password with a stored hash, letting every error through. -/
def check (password : String) (stored : String) : Except PasswordError Bool :=
  match parts? stored.toList with
  | none => .ok false
  | some (method, salt, key) => do
    let m ← Method.ofText method
    let derived := m.key password.toList salt
    if key.all (·.toNat < 128) then return derived == key else .error .foreignKey

/-- **Verify a password.** A hash whose method is refused verifies nothing; the other errors pass.
-/
def verify (password stored : String) : Except PasswordError Bool :=
  match check password stored with
  | .error .refused => .ok false
  | result => result

end LoginGate.Password
