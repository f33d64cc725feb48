import LoginGate.Field
import LoginGate.Password.Method
import LoginGate.Registration

/-!
# Failure — why a step ends without its result

An `AppError` is an answer that the service gives on purpose: it has a code, a status and, for some,
a context, and it is shown to clients as its `payload`. What distinguishes two failed
authentications (`Denial`) is kept for the log alone. Every other failure is an accident that
clients see as an internal error; `Failure.name` is the name it goes by in the log.
-/

namespace LoginGate

/-- Why a caller is not who they would have to be. -/
inductive Denial where
  | unauthorized
  | invalidCredentials
  | invalidSession
  | sessionExpired
  | invalidToken
  | tokenExpired
  | userBlocked
  | missingToken
  | missingRefreshToken
  | custom (reason : String)
  deriving DecidableEq, Repr

/-- The word for a denial in the log. -/
def Denial.reason : Denial → String
  | .unauthorized => "unauthorized"
  | .invalidCredentials => "invalid_credentials"
  | .invalidSession => "invalid_session"
  | .sessionExpired => "session_expired"
  | .invalidToken => "invalid_token"
  | .tokenExpired => "token_expired"
  | .userBlocked => "user_blocked"
  | .missingToken => "missing_token"
  | .missingRefreshToken => "missing_refresh_token"
  | .custom reason => reason

/-- The storage calls, by name. -/
inductive Call where
  | createUser
  | getUserByLogin
  | userIsBlocked
  | setBlocked
  | storeSession
  | getSessionByRefreshToken
  | refreshSession
  | deleteSession
  | deleteAllSessions
  deriving DecidableEq, Repr

/-- The name of a storage call in logs and errors. -/
def Call.name : Call → String
  | .createUser => "create_user"
  | .getUserByLogin => "get_user_by_login"
  | .userIsBlocked => "user_is_blocked"
  | .setBlocked => "set_blocked"
  | .storeSession => "store_session"
  | .getSessionByRefreshToken => "get_session_by_refresh_token"
  | .refreshSession => "refresh_session"
  | .deleteSession => "delete_session"
  | .deleteAllSessions => "delete_all_sessions"

/-- An answer other than success. -/
inductive AppError where
  | validation (code : String) (context : List (String × Json))
  | authentication (denial : Denial)
  | conflict (entity : String)
  | notFound (entity : String)
  | repository (operation : Option String)
  /-- The session's refresh token is no longer the one that was to be replaced. -/
  | lostRotation
  | other (code : String) (status : Int) (context : List (String × Json))
  deriving Repr

namespace AppError

/-- The code that clients see. -/
def code : AppError → String
  | .validation code _ => code
  | .authentication _ => "unauthorized"
  | .conflict _ => "conflict"
  | .notFound _ => "not_found"
  | .repository _ | .lostRotation => "repository_error"
  | .other code _ _ => code

/-- The status of the response. -/
def status : AppError → Int
  | .validation _ _ => 422
  | .authentication _ => 401
  | .conflict _ => 409
  | .notFound _ => 404
  | .repository _ | .lostRotation => 500
  | .other _ status _ => status

/-- What is added to the code. -/
def context : AppError → List (String × Json)
  | .validation _ context | .other _ _ context => context
  | .conflict entity | .notFound entity => [("entity", .text entity)]
  | .authentication _ | .repository _ | .lostRotation => []

/-- **What clients see**: the code, and the context unless it is empty. -/
def payload (e : AppError) : Json :=
  if e.context.isEmpty then .object [("error", .text e.code)]
  else .object [("error", .text e.code), ("context", .object e.context)]

/-- The storage call that failed, for the errors that come from the storage. -/
def operation? : AppError → Option (Option String)
  | .repository operation => some operation
  | .lostRotation => some (some Call.refreshSession.name)
  | _ => none

/-- A broken rule. -/
def ofRule (rule : Registration.Rule) : AppError :=
  .validation "validation_error" [("rule", .text rule.name), ("message", .text rule.message)]

/-- An identifier that cannot be read: the rule is named for the field. -/
def malformedId (field : String) : AppError :=
  let words := String.ofList (field.toList.map fun c => if c = '_' then ' ' else c)
  .validation "validation_error"
    [("rule", .text (field ++ "_format")), ("message", .text ("invalid " ++ words))]

end AppError

/-- Why an access token cannot be made or judged. -/
inductive SignerError where
  | emptySecret
  /-- The secret is a key of another kind, or the algorithm takes no secret. -/
  | unusableKey
  | unknownAlgorithm
  deriving DecidableEq, Repr

/-- **Why a step ends without its result.** -/
inductive Failure where
  | app (e : AppError)
  | password (e : PasswordError)
  | signer (e : SignerError)
  /-- A sum of a date and a span is no date, or a span is too long. -/
  | noDate
  /-- A cookie attribute has a value that cannot be written. -/
  | badCookie
  /-- A document or a pattern is nested too deep to be read. -/
  | tooDeep
  /-- An argument that has no length is to be measured or cut. -/
  | notMeasurable
  /-- An argument that is no text is to be encoded. -/
  | notEncodable
  /-- No log level has the name that is set. -/
  | unknownLevel
  /-- An allowed origin looks like a pattern and is none. -/
  | badPattern
  /-- A pattern counts too many repetitions. -/
  | tooManyRounds
  deriving Repr

namespace Failure

/-- The name a failure goes by in the log. -/
def name : Failure → String
  | .app (.validation _ _) => "ValidationError"
  | .app (.authentication _) => "AuthenticationError"
  | .app (.conflict _) => "ConflictError"
  | .app (.notFound _) => "NotFoundError"
  | .app (.repository _) => "RepositoryError"
  | .app .lostRotation => "SessionRotationConflictError"
  | .app (.other _ _ _) => "AppError"
  | .password .refused => "ValueError"
  | .password .unsignedExpected => "TypeError"
  | .password .tooLarge => "OverflowError"
  | .password .foreignKey => "TypeError"
  | .signer .emptySecret => "ValueError"
  | .signer .unusableKey => "InvalidKeyError"
  | .signer .unknownAlgorithm => "NotImplementedError"
  | .noDate => "OverflowError"
  | .badCookie => "ValueError"
  | .tooDeep => "RecursionError"
  | .notMeasurable => "TypeError"
  | .notEncodable => "AttributeError"
  | .unknownLevel => "ValueError"
  | .badPattern => "ValueError"
  | .tooManyRounds => "OverflowError"

/-- A failed authentication. -/
def denied (d : Denial) : Failure := .app (.authentication d)

end Failure

/-- The validation error for some fields. -/
def AppError.ofFields (errors : List FieldError) : AppError :=
  .validation "validation_error" (FieldError.context errors)

end LoginGate
