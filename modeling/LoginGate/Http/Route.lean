/-!
# Http/Route — which request goes where

Eight endpoints, each with a path and the methods it takes. A path with doubled slashes that would
otherwise lead somewhere is redirected; a known path asked with another method is refused with a
list of the methods it takes.
-/

namespace LoginGate.Http

/-- Where a request can go. -/
inductive Endpoint where
  | register
  | login
  | refresh
  | logout
  | logoutAll
  | me
  | health
  /-- A file to be sent as it is; there are none. -/
  | file
  deriving DecidableEq, Repr

namespace Endpoint

/-- All endpoints. -/
def all : List Endpoint := [.register, .login, .refresh, .logout, .logoutAll, .me, .health, .file]

/-- The path of an endpoint; files have paths below theirs. -/
def path : Endpoint → String
  | .register => "/api/v1/auth/register"
  | .login => "/api/v1/auth/login"
  | .refresh => "/api/v1/auth/refresh"
  | .logout => "/api/v1/auth/logout"
  | .logoutAll => "/api/v1/auth/logout-all"
  | .me => "/api/v1/auth/me"
  | .health => "/health"
  | .file => "/static/"

/-- The methods an endpoint takes, in alphabetical order. -/
def methods : Endpoint → List String
  | .me | .health | .file => ["GET", "HEAD", "OPTIONS"]
  | _ => ["OPTIONS", "POST"]

/-- Whether an endpoint is for callers with an access token. -/
def needsCaller : Endpoint → Bool
  | .logout | .logoutAll | .me => true
  | _ => false

/-- Whether a path leads to an endpoint. The path of a file starts with another character than a
slash, and no line feed comes later in it. -/
def isAt (e : Endpoint) (target : List Char) : Bool :=
  match e with
  | .file =>
    let stem := e.path.toList
    stem.isPrefixOf target &&
      (match target.drop stem.length with
       | [] => false
       | c :: rest => c != '/' && rest.all (· != '\n'))
  | e => target == e.path.toList

/-- Where a path leads. -/
def at? (target : List Char) : Option Endpoint := all.find? (·.isAt target)

end Endpoint

/-- The outcome of routing. -/
inductive Route where
  | found (e : Endpoint)
  /-- The same path without doubled slashes is one. -/
  | redirect
  | wrongMethod (allowed : List String)
  | unknown
  deriving DecidableEq, Repr

namespace Route

/-- A path with each pair of slashes made one. -/
def unpaired : List Char → List Char
  | '/' :: '/' :: rest => '/' :: unpaired rest
  | c :: rest => c :: unpaired rest
  | [] => []

/-- **Where a request goes.** -/
def of (method path : String) : Route :=
  match Endpoint.at? path.toList with
  | some e => if e.methods.contains method then .found e else .wrongMethod e.methods
  | none =>
    match Endpoint.at? (unpaired path.toList) with
    | some e => if e.methods.contains method then .redirect else .wrongMethod e.methods
    | none => .unknown

end Route
end LoginGate.Http
