import LoginGate.Registration
import LoginGate.Service.Basic

/-!
# Service/Register — a new account

The rules come first, and nothing is drawn for a registration that breaks one. Then the password is
hashed and an identifier drawn, so that a registration which clashes with an account has used up
both.
-/

namespace LoginGate.Service

/-- Hash a new password. -/
def hashPassword (service : Service) (password : String) : Act String := do
  let salt ← Act.drawSalt service.supply
  Act.ofExcept ((Password.hash service.hashMethod password salt).mapError .password)

/-- Enter an account that breaks no rule. -/
def enter (service : Service) (username email password : String) : Act Uuid := do
  let hashed ← service.hashPassword password
  let id ← Act.drawId service.supply
  let id ← Store.createUser id email username hashed
  Act.log .info ("auth.register: created user_id=" ++ id.text)
  return id

/-- The text of an argument that breaks no rule. -/
def judged (broken : String → Option Registration.Rule) (argument : Argument) :
    Except Failure String := do
  let s ← argument.measured
  match broken s with
  | some rule => .error (.app (.ofRule rule))
  | none => .ok s

/-- The texts of a registration that breaks no rule. The rules are judged one argument after
another, so an argument that is no text only counts if those before it are in order. -/
def registrationTexts (username email password : Argument) :
    Except Failure (String × String × String) := do
  let username ← judged Registration.brokenByUsername? username
  let email ← judged Registration.brokenByEmail? email
  let password ← judged Registration.brokenByPassword? password
  return (username, email, password)

/-- A registration with arguments that need not be texts. -/
def registerWith (service : Service) (username email password : Argument) : Act Uuid := do
  let (username, email, password) ← Act.ofExcept (registrationTexts username email password)
  service.enter username email password

/-- **Register an account.** -/
def register (service : Service) (username email password : String) : Act Uuid := do
  match Registration.firstBroken? username email password with
  | some rule => Act.fail (.app (.ofRule rule))
  | none => service.enter username email password

/-- Arguments that are texts are a registration like any other. -/
theorem registerWith_text (service : Service) (username email password : String) :
    service.registerWith (.text username) (.text email) (.text password) =
      service.register username email password := by
  unfold registerWith registrationTexts register Registration.firstBroken? judged
  simp only [Argument.measured_text]
  cases hu : Registration.brokenByUsername? username <;>
    cases he : Registration.brokenByEmail? email <;>
      cases hp : Registration.brokenByPassword? password <;>
        simp only [bind, Except.bind, Option.or, hu, he, hp] <;> rfl

end LoginGate.Service
