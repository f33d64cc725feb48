import LoginGate.Service.Basic

/-!
# Service/Verify — who a caller is

The gate before every protected request: an access token is good for its user as long as the user
exists and is not blocked.
-/

namespace LoginGate.Service

/-- **The user of an access token.** -/
def verify (service : Service) (accessToken : String) : Act Uuid := do
  let user ← Act.atNow (service.signer.verify accessToken)
  let blocked ← Act.orElse (Store.userIsBlocked user) fun e =>
    match e with
    | .app (.notFound _) => Act.fail (.denied .invalidToken)
    | e => Act.fail e
  if blocked then
    Act.log .warning ("auth.verify: blocked user_id=" ++ user.text)
    Act.fail (.denied .userBlocked)
  else return user

end LoginGate.Service
