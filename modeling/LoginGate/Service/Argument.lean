import LoginGate.Password.Hash
import LoginGate.Store.Transaction

/-!
# Service/Argument — arguments that need not be what they should be

A caller may give something else than a text where a text is wanted, or nothing at all. That comes
out at the first use of the argument: it equals no stored value, it has no length, it cannot be cut
to a width or encoded. A flag that is neither a truth value nor nothing is refused by the storage,
and a row without a value that it must have is not written.
-/

namespace LoginGate

/-- An argument in the place of a text. -/
inductive Argument where
  | text (s : String)
  | nothing
  /-- Something, but no text. -/
  | unfit
  deriving DecidableEq, Repr

namespace Argument

/-- An argument from a document. -/
def ofJson : Json → Argument
  | .text s => .text s
  | .null => .nothing
  | _ => .unfit

/-- A text that may be left out. -/
def ofOption : Option String → Argument
  | some s => .text s
  | none => .nothing

/-- The text, if it is one. -/
def text? : Argument → Option String
  | .text s => some s
  | _ => none

/-- The text, which is about to be measured or cut. -/
def measured : Argument → Except Failure String
  | .text s => .ok s
  | _ => .error .notMeasurable

/-- The text, which is about to be cut; nothing may be left as it is. -/
def measured? : Argument → Except Failure (Option String)
  | .text s => .ok (some s)
  | .nothing => .ok none
  | .unfit => .error .notMeasurable

@[simp] theorem text?_text (s : String) : (text s).text? = some s := rfl

@[simp] theorem measured_text (s : String) : (text s).measured = .ok s := rfl

end Argument

/-- The value of a flag. -/
inductive Flag where
  | known (b : Bool)
  | nothing
  | unfit
  deriving DecidableEq, Repr

namespace Flag

/-- A flag from a document: zero and one are truth values too. -/
def ofJson : Json → Flag
  | .bool b => .known b
  | .null => .nothing
  | .int n => if n = 0 then .known false else if n = 1 then .known true else .unfit
  | .real x =>
    if x.toInt? = some 0 then .known false
    else if x.toInt? = some 1 then .known true
    else .unfit
  | _ => .unfit

end Flag

namespace Store

/-- The account that answers to a login, which must be a text to be anyone's. -/
def accountOf (login : Argument) : Act (Uuid × String) := do
  match ← query .getUserByLogin fun s => login.text?.bind s.userByLogin? with
  | some u => return (u.id, u.passwordHash)
  | none => Act.fail (.app (.notFound "user"))

/-- Create an account; one without all of its texts clashes. -/
def enrol (id : Uuid) (email username passwordHash : Argument) : Act Uuid :=
  match email, username, passwordHash with
  | .text email, .text username, .text hash => createUser id email username hash
  | _, _, _ =>
    transact .createUser fun w =>
      let crossed := w.store.users.any fun u =>
        some u.username == email.text? || some u.email == username.text?
      if crossed then .error (.crossedName id)
      else if !Instant.isDate w.now then .error .noDate
      else .error (.sameColumn id)

/-- Set or clear the blocked flag of an account. -/
def flagUser (id : Uuid) (flag : Flag) : Act Unit :=
  match flag with
  | .known blocked => blockUser id blocked
  | .nothing => do
    transact .setBlocked fun w =>
      if (w.store.user? id).isSome then .error .duplicate else .ok ((), w.store)
    Act.fail (.app (.notFound "user"))
  | .unfit => transact .setBlocked fun _ => .error .unfitValue

end Store
end LoginGate
