import LoginGate.Service.Login

/-!
# Service/Refresh — a new pair of tokens for an old one

A refresh has two halves with the storage in between: `lookUp` reads the session of the token, and
`complete` reads the clock and then deletes an expired session or rotates a live one. Other requests
may come between the halves, so the session read may be out of date when it is completed; the
rotation then finds that the token presented is no longer the stored one.
-/

namespace LoginGate

/-- What a refresh hands out. -/
structure TokenPair where
  accessToken : String
  refreshToken : String
  deriving DecidableEq

namespace Service

/-- The session of a refresh token. -/
def lookUp (token : String) : Act Session :=
  Act.orElse (Store.getSession token) fun e =>
    match e with
    | .app (.notFound _) => do
      Act.log .info "auth.refresh: rejected, unknown refresh token"
      Act.fail (.denied .invalidSession)
    | e => Act.fail e

/-- Rotate a session. -/
def rotate (renewed : Session) (previous : String) : Act Unit :=
  Act.orElse (Store.refreshSession renewed previous) fun e =>
    match e with
    | .app .lostRotation => do
      Act.log .warning
        ("auth.refresh: concurrent rotation lost for session_id=" ++ renewed.id.text)
      Act.fail (.denied .invalidSession)
    | e => Act.fail e

/-- The second half of a refresh, for the session that was read. -/
def complete (service : Service) (session : Session) (token : String) : Act TokenPair := do
  let now ← Act.clock
  if session.isExpired now then
    Store.removeSession session.owner session.id
    Act.log .info ("auth.refresh: session_id=" ++ session.id.text ++ " expired, deleted")
    Act.fail (.denied .sessionExpired)
  else
    let refreshToken ← Act.drawToken service.supply
    let expires ← Act.later now service.sessionSpan
    rotate (session.rotated refreshToken now expires) token
    let accessToken ← service.issue session.owner
    Act.log .info ("auth.refresh: rotated session_id=" ++ session.id.text)
    return { accessToken, refreshToken }

/-- A refresh of a session that is found in some way; an empty token has none. -/
def refreshFrom (service : Service) (find : Act Session) (token : String) : Act TokenPair :=
  if token = "" then Act.fail (.denied .invalidSession)
  else do
    let session ← find
    service.complete session token

/-- **Refresh**: both halves, with nothing in between. -/
def refresh (service : Service) (token : String) : Act TokenPair :=
  service.refreshFrom (lookUp token) token

/-- A refresh whose first half has read this session some time ago. -/
def refreshStale (service : Service) (old : Session) (token : String) : Act TokenPair :=
  service.refreshFrom (pure old) token

end Service
end LoginGate
