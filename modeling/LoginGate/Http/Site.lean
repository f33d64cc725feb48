import LoginGate.Form
import LoginGate.Http.Cookie
import LoginGate.Http.Message
import LoginGate.Http.Origin
import LoginGate.Http.Route
import LoginGate.Service.Logout
import LoginGate.Service.Refresh
import LoginGate.Service.Register
import LoginGate.Service.Verify
import LoginGate.Text.Quoted

/-!
# Http/Site — the service behind its endpoints

`Site.respond` takes a request through the whole exchange: it is logged, routed, let in or turned
away, answered, and logged again. A failure becomes a response in one place (`explain`), and there
it is decided how much of it clients see: an answer given on purpose is shown as its payload, and an
accident as an internal error.
-/

namespace LoginGate.Http

/-- The service, and the settings that its responses depend on. -/
structure Site where
  service : Service
  security : Settings.Security
  origins : Origin.Policy
  debugLogging : Bool
  /-- How long a refresh cookie is kept, in seconds. -/
  cookieAge : Int
  /-- The correlation id of a request that brings none. -/
  freshCorrelation : String

namespace Site

/-- The policy for callers from other origins. -/
def policyOf (s : Settings.Security) : Except Failure Origin.Policy :=
  match Origin.Policy.ofList s.allowedOrigins with
  | .ok policy => .ok policy
  | .error .malformed => .error .badPattern
  | .error .tooMany => .error .tooManyRounds
  | .error .tooDeep => .error .tooDeep

/-- The site of a configuration. -/
def make (config : Config) (service : Service) (freshCorrelation : String) :
    Except Failure Site := do
  let origins ← policyOf config.security
  return { service, security := config.security, origins, debugLogging := config.debugLogging
           cookieAge := config.tokens.sessionTtlDays * 86400, freshCorrelation }

/-- The least level that is logged. -/
def threshold (config : Config) : Except Failure Log.Level :=
  if config.debugLogging then .ok .debug
  else
    match Log.Level.ofSetting? config.logLevel with
    | some level => .ok level
    | none => .error .unknownLevel

/-! ## The cookie -/

/-- The field that sets the refresh cookie. -/
def refreshCookie (site : Site) (token : String) (now : Instant) :
    Except Failure (String × String) :=
  match Date.after? now site.cookieAge, SetCookie.sameSite? site.security.cookieSamesite with
  | some expires, some word => do
    let cookie : SetCookie :=
      { name := site.security.refreshCookieName, value := token, expires, maxAge := site.cookieAge
        isSecure := site.security.cookieSecure, isHttpOnly := true
        path := site.security.refreshCookiePath, sameSite := some word }
    return ("Set-Cookie", ← cookie.text)
  | _, _ => .error .badCookie

/-- The field that makes a client forget the refresh cookie. -/
def clearedCookie (site : Site) : Except Failure (String × String) := do
  let cookie : SetCookie :=
    { name := site.security.refreshCookieName, value := "", expires := Date.text 0, maxAge := 0
      isSecure := false, isHttpOnly := false, path := site.security.refreshCookiePath
      sameSite := none }
  return ("Set-Cookie", ← cookie.text)

/-! ## The endpoints -/

/-- A form, or the validation error for its fields. -/
def form {α : Type} (result : Checked α) : Act α :=
  match result with
  | .ok a => pure a
  | .error errors => Act.fail (.app (.ofFields errors))

/-- Open an account. -/
def register (site : Site) (r : Request) : Act Response := do
  let f ← form (RegisterForm.ofJson (← Act.ofExcept r.document))
  let id ← site.service.register f.username f.email f.password
  return .json 201 (.object [("user_id", .text id.text)])

/-- Open a session. -/
def login (site : Site) (r : Request) : Act Response := do
  let f ← form (LoginForm.ofJson (← Act.ofExcept r.document))
  let userAgent := r.fields.getText "User-Agent"
  let a ← site.service.login f.login f.password userAgent (some r.clientAddress)
  let cookie ← Act.atNow (site.refreshCookie a.refreshToken)
  return (Response.json 200 (.object [("user_id", .text a.user.text),
    ("access_token", .text a.accessToken), ("session_id", .text a.session.text)])).adding [cookie]

/-- The refresh token that a request brings. -/
def presentedToken (site : Site) (r : Request) : String :=
  Cookies.get (r.fields.getText "Cookie") site.security.refreshCookieName

/-- Renew a session. -/
def refresh (site : Site) (r : Request) : Act Response := do
  let token := site.presentedToken r
  if token = "" then Act.fail (.denied .missingRefreshToken)
  else
    let pair ← site.service.refresh token
    let cookie ← Act.atNow (site.refreshCookie pair.refreshToken)
    return (Response.json 200 (.object [("access_token", .text pair.accessToken)])).adding [cookie]

/-- End a session of the caller. -/
def logout (caller : Uuid) (r : Request) : Act Response := do
  let f ← form (LogoutForm.ofJson (← Act.ofExcept r.document))
  Service.logout caller f.sessionId
  return .empty 204 []

/-- End all sessions of the caller. -/
def logoutAll (site : Site) (caller : Uuid) : Act Response := do
  Service.logoutAll caller
  let cookie ← Act.ofExcept site.clearedCookie
  Act.log .info ("auth.logout_all: cleared cookie for user_id=" ++ caller.text)
  return .empty 204 [cookie]

/-- **The caller of a request**, by its bearer token. -/
def caller (site : Site) (r : Request) : Act Uuid := do
  let token := r.fields.bearer
  if token = "" then
    Act.log .warning ("No Authorization header on " ++ r.line)
    Act.fail (.denied .missingToken)
  else site.service.verify token

/-- The answer of an endpoint for callers. -/
def answerCaller (site : Site) (e : Endpoint) (caller : Uuid) (r : Request) : Act Response :=
  match e with
  | .logout => logout caller r
  | .logoutAll => site.logoutAll caller
  | _ => return .json 200 (.object [("user_id", .text caller.text)])

/-- The answer of an endpoint for everyone. -/
def answerAnyone (site : Site) (e : Endpoint) (r : Request) : Act Response :=
  match e with
  | .register => site.register r
  | .login => site.login r
  | .refresh => site.refresh r
  | .health => return .json 200 (.object [("status", .text "ok")])
  | _ => return .page 404 []

/-! ## Failures -/

/-- What is logged about a failure, and how serious it is. -/
def failureNote (site : Site) (r : Request) : Failure → Option (Log.Level × String)
  | .app (.authentication d) =>
    some (.warning, "Unauthorized " ++ r.line ++ ": reason=" ++ d.reason)
  | .app e =>
    e.operation?.map fun operation =>
      (.error, "Repository failure on " ++ r.line ++ ": operation=" ++ operation.getD "None")
  | e =>
    if site.debugLogging then some (.error, "Unhandled exception: " ++ r.line)
    else some (.error, "Error: " ++ e.name ++ " on " ++ r.line)

/-- **What clients see of a failure.** -/
def failureResponse : Failure → Response
  | .app e => .json e.status e.payload
  | _ => .json 500 (.object [("error", .text "internal_error")])

/-- Log a failure and turn it into a response. -/
def explain (site : Site) (r : Request) (e : Failure) : Act Response := do
  match site.failureNote r e with
  | some (level, message) => Act.log level message
  | none => pure ()
  return failureResponse e

/-- A response in any case. -/
def rescue (site : Site) (r : Request) (act : Act Response) : Act Response :=
  Act.orElse act (site.explain r)

/-! ## The exchange -/

/-- The response of an endpoint, and its caller if it has asked for one. -/
def visit (site : Site) (e : Endpoint) (r : Request) : Act (Response × Option Uuid) :=
  if r.method = "OPTIONS" then
    return (.empty 200 [("Allow", ", ".intercalate e.methods)], none)
  else if e.needsCaller then
    Act.orElse
      (do
        let caller ← site.caller r
        let response ← site.rescue r (site.answerCaller e caller r)
        return (response, some caller))
      fun e => do
        let response ← site.explain r e
        return (response, none)
  else do
    let response ← site.rescue r (site.answerAnyone e r)
    return (response, none)

/-- **The response to a request, and its caller.** A host that cannot be one is refused before
anything is looked for, and a wish for a socket where there would be something to find. -/
def dispatch (site : Site) (r : Request) : Act (Response × Option Uuid) :=
  if !r.hasGoodHost then return (.page 400 [], none)
  else match Route.of r.method r.path with
  | .found e => if r.asksForSocket then return (.page 400 [], none) else site.visit e r
  | .redirect => return (.page (if r.asksForSocket then 400 else 308) [], none)
  | .wrongMethod allowed => return (.page 405 [("Allow", ", ".intercalate allowed)], none)
  | .unknown => return (.page 404 [], none)

/-- The fields that every response has. -/
def safetyFields : Fields :=
  [("X-Frame-Options", "DENY"), ("Referrer-Policy", "no-referrer"),
    ("X-Content-Type-Options", "nosniff"), ("Cache-Control", "no-store")]

/-- Whether a path belongs to the interface that other origins may call. -/
def isShared (path : String) : Bool := "/api".toList.isPrefixOf (Percent.decode path.toList)

/-- The fields of a response that depend on the request alone. -/
def frameFields (site : Site) (r : Request) : Fields :=
  safetyFields ++
    (if isShared r.path then Origin.fields site.origins r.method r.fields else [])

/-- A response with these fields, and without a body if only its head was asked for. -/
def finish (site : Site) (r : Request) (response : Response) : Response :=
  let response := response.adding (site.frameFields r)
  if r.method = "HEAD" then response.bare else response

/-- What the log says about a request on arrival. -/
def arrival (site : Site) (r : Request) : String :=
  if site.debugLogging then
    let field (f : String × String) : String :=
      String.ofList (Text.quoted f.1.toList) ++ ": " ++ String.ofList (Text.quoted f.2.toList)
    let fields := (r.fields.shown.map Fields.veil).map field
    "Request started: " ++ r.line ++ " from " ++ r.clientAddress ++ ", headers=\x7b" ++
      ", ".intercalate fields ++ "\x7d, body_size=" ++ toString r.remaining
  else "Request: " ++ r.line ++ " from " ++ r.clientAddress

/-- What the log says about a response. -/
def departure (r : Request) (response : Response) (caller : Option Uuid) : String :=
  "Response: " ++ r.line ++ " status=" ++ toString response.status ++ " in 0.0 ms, user=" ++
    (caller.map (·.text)).getD "None"

/-- **The whole exchange.** -/
def respond (site : Site) (r : Request) : Act Response := do
  let brought := r.fields.getText "X-Request-ID"
  Act.correlate (some (if brought = "" then site.freshCorrelation else brought))
  Act.log .info (site.arrival r)
  let (response, caller) ← site.dispatch r
  Act.log .info (departure r response caller)
  Act.correlate none
  return site.finish r response

end Site
end LoginGate.Http
