import LoginGate.World

/-!
# Store/Transaction — the storage calls

Every call is one transaction: it commits, or it is rolled back and leaves the store as it was. A
call can be rolled back because the storage does not answer, because of a value that its table does
not admit, or because there is no date to record. That a row named is not there is found out
after the commit of a transaction that has changed nothing.
-/

namespace LoginGate

/-- Why a transaction is rolled back. -/
inductive Abort where
  /-- The storage does not answer. -/
  | fault
  /-- A value that must be unique is there already, or one that must be there is missing. -/
  | duplicate
  /-- A value is none of those that its column takes. -/
  | unfitValue
  /-- A name of the newcomer is the other kind of name of some account. -/
  | crossedName (newcomer : Uuid)
  /-- The newcomer agrees with some account in a column that must be unique. -/
  | sameColumn (newcomer : Uuid)
  | noDate
  deriving DecidableEq

namespace Abort

/-- What the caller of the storage gets to see. -/
def failure (call : Call) : Abort → Failure
  | .fault | .duplicate | .unfitValue => .app (.repository (some call.name))
  | .crossedName _ | .sameColumn _ => .app (.conflict "user")
  | .noDate => .noDate

/-- The world after what is logged before the roll-back. -/
def noteBefore (w : World) : Abort → World
  | .crossedName newcomer =>
    w.log .info ("repo.create_user: login clash for user_id=" ++ newcomer.text)
  | _ => w

/-- The world after what is logged after the roll-back. -/
def noteAfter (call : Call) (w : World) : Abort → World
  | .fault => w.log .error ("repo." ++ call.name ++ ": OperationalError")
  | .duplicate => w.log .error ("repo." ++ call.name ++ ": IntegrityError")
  | .unfitValue => w.log .error ("repo." ++ call.name ++ ": StatementError")
  | .sameColumn newcomer =>
    w.log .info ("repo.create_user: unique constraint hit for user_id=" ++ newcomer.text)
  | _ => w

/-- **The world after a roll-back**: nothing but the log is different. -/
def rollBack (call : Call) (w : World) (abort : Abort) : World :=
  abort.noteAfter call ((abort.noteBefore w).log .debug "db.session: error, rolling back")

@[simp] theorem store_rollBack (call : Call) (w : World) (abort : Abort) :
    (abort.rollBack call w).store = w.store := by
  cases abort <;> rfl

@[simp] theorem now_rollBack (call : Call) (w : World) (abort : Abort) :
    (abort.rollBack call w).now = w.now := by
  cases abort <;> rfl

end Abort

namespace Store

/-- **A transaction.** The call that a pending fault is for never gets to its body. -/
def transact {α : Type} (call : Call) (body : World → Except Abort (α × Store)) : Act α := fun w =>
  let begun := (w.log .debug "db.session: opened session").countdown
  match if w.faultIn = 1 then .error .fault else body begun with
  | .ok (a, store) => (.ok a, { begun with store }.log .debug "db.session: committed session")
  | .error abort => (.error (abort.failure call), abort.rollBack call begun)

/-- A transaction that looks something up. -/
def query {α : Type} (call : Call) (read : Store → α) : Act α :=
  transact call fun w => .ok (read w.store, w.store)

/-- Create an account. -/
def createUser (id : Uuid) (email username passwordHash : String) : Act Uuid :=
  transact .createUser fun w =>
    let newcomer : User :=
      { id, email, username, passwordHash, created := w.now, isBlocked := false }
    if w.store.hasCrossedName newcomer then .error (.crossedName id)
    else if !Instant.isDate w.now then .error .noDate
    else if w.store.hasSameColumn newcomer then .error (.sameColumn id)
    else .ok (id, w.store.addUser newcomer)

/-- The account that answers to a login. -/
def getUserByLogin (login : String) : Act (Uuid × String) := do
  match ← query .getUserByLogin (·.userByLogin? login) with
  | some u => return (u.id, u.passwordHash)
  | none => Act.fail (.app (.notFound "user"))

/-- Whether an account is blocked. -/
def userIsBlocked (id : Uuid) : Act Bool := do
  match ← query .userIsBlocked (·.user? id) with
  | some u => return u.isBlocked
  | none => Act.fail (.app (.notFound "user"))

/-- Block or unblock an account. -/
def blockUser (id : Uuid) (blocked : Bool) : Act Unit := do
  let found ← transact .setBlocked fun w =>
    .ok ((w.store.user? id).isSome, w.store.setBlocked id blocked)
  if found then return () else Act.fail (.app (.notFound "user"))

/-- Store a session under an owner. -/
def storeSession (owner : Uuid) (session : Session) : Act Unit :=
  transact .storeSession fun w =>
    let newcomer := { session with owner }
    if w.store.hasSession newcomer then .error .duplicate
    else .ok ((), w.store.addSession newcomer)

/-- The session of a refresh token. -/
def getSession (token : String) : Act Session := do
  match ← query .getSessionByRefreshToken (·.sessionByToken? token) with
  | some s => return s
  | none => Act.fail (.app (.notFound "session"))

/-- **Rotate a session**, if its refresh token is still the one that was presented. -/
def refreshSession (renewed : Session) (previous : String) : Act Unit := do
  let found ← transact .refreshSession fun w =>
    if !w.store.canRotate renewed previous then .ok (false, w.store)
    else if w.store.isTokenHeld renewed previous then .error .duplicate
    else .ok (true, w.store.rotate renewed previous)
  if found then return () else Act.fail (.app .lostRotation)

/-- Delete a session of an owner. -/
def removeSession (owner id : Uuid) : Act Unit :=
  transact .deleteSession fun w => .ok ((), w.store.deleteSession owner id)

/-- Delete all sessions of an owner. -/
def removeSessions (owner : Uuid) : Act Unit :=
  transact .deleteAllSessions fun w => .ok ((), w.store.deleteSessions owner)

end Store
end LoginGate
