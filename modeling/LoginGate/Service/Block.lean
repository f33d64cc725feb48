import LoginGate.Service.Basic
import LoginGate.Text.Quoted

/-!
# Service/Block — blocking an account

An operator names an account by one of its names and sets or clears its blocked flag.
-/

namespace LoginGate.Service

/-- The word for a flag. -/
def flagWord (b : Bool) : String := if b then "True" else "False"

/-- The account that an operator names, if there is one. -/
def named (login : String) : Act (Option Uuid) :=
  Act.orElse (do let (id, _) ← Store.getUserByLogin login; return some id) fun e =>
    match e with
    | .app (.notFound _) => do
      Act.log .error
        ("block_user: no user matches login=" ++ String.ofList (Text.quoted login.toList))
      return none
    | e => Act.fail e

/-- **Block or unblock an account**; whether there is one. -/
def block (login : String) (blocked : Bool) : Act Bool := do
  match ← named login with
  | none => return false
  | some id =>
    Store.blockUser id blocked
    Act.log .info ("block_user: user_id=" ++ id.text ++ " blocked=" ++ flagWord blocked)
    return true

/-- Set the flag of an account to something that need not be a truth value. -/
def blockWith (login : String) (flag : Flag) : Act Bool := do
  match flag with
  | .known blocked => block login blocked
  | flag =>
    match ← named login with
    | none => return false
    | some id =>
      Store.flagUser id flag
      return true

end LoginGate.Service
