import LoginGate.Service.Basic

/-!
# Service/Login — a session for a name and a password

An unknown name and a wrong password are the same denial. The access token is made before anything
is drawn, and the session is stored last.
-/

namespace LoginGate

/-- What a login hands out. -/
structure Admission where
  user : Uuid
  accessToken : String
  refreshToken : String
  session : Uuid
  deriving DecidableEq

namespace Service

/-- Issue an access token now. -/
def issue (service : Service) (user : Uuid) : Act String := Act.atNow (service.signer.issue user)

/-- The account of a login; an unknown one is denied after its password has been checked against the
decoy. -/
def knownUser (service : Service) (login password : Argument) : Act (Uuid × String) :=
  Act.orElse (Store.accountOf login) fun e =>
    match e with
    | .app (.notFound _) => do
      let _ ← checkPassword password service.decoyHash
      Act.log .info "auth.login: rejected, unknown login"
      Act.fail (.denied .invalidCredentials)
    | e => Act.fail e

/-- A login with arguments that need not be texts. -/
def loginWith (service : Service) (login password userAgent clientIp : Argument) :
    Act Admission := do
  let (user, hash) ← service.knownUser login password
  if !(← checkPassword password hash) then
    Act.log .info ("auth.login: rejected, bad password for user_id=" ++ user.text)
    Act.fail (.denied .invalidCredentials)
  else
    let accessToken ← service.issue user
    let now ← Act.clock
    let id ← Act.drawId service.supply
    let refreshToken ← Act.drawToken service.supply
    let expires ← Act.later now service.sessionSpan
    let userAgent ← Act.ofExcept userAgent.measured
    let clientIp ← Act.ofExcept clientIp.measured?
    Store.storeSession user
      { id, owner := user, refreshToken, created := now, expires
        userAgent := Session.clamp Session.userAgentWidth userAgent
        clientIp := clientIp.map (Session.clamp Session.clientIpWidth) }
    Act.log .info ("auth.login: ok user_id=" ++ user.text ++ " session_id=" ++ id.text)
    return { user, accessToken, refreshToken, session := id }

/-- **Log in.** -/
def login (service : Service) (login password userAgent : String) (clientIp : Option String) :
    Act Admission :=
  service.loginWith (.text login) (.text password) (.text userAgent) (.ofOption clientIp)

end Service
end LoginGate
