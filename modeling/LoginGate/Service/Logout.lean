import LoginGate.Service.Basic

/-!
# Service/Logout — ending sessions

One session of a user, or all of them. Ending a session that is not there, or is another user's, is
no failure and changes nothing.
-/

namespace LoginGate.Service

/-- End a session. -/
def logout (user session : Uuid) : Act Unit := do
  Store.removeSession user session
  Act.log .info ("auth.logout: user_id=" ++ user.text ++ " session_id=" ++ session.text)

/-- End all sessions of a user. -/
def logoutAll (user : Uuid) : Act Unit := do
  Store.removeSessions user
  Act.log .info ("auth.logout_all: user_id=" ++ user.text)

end LoginGate.Service
