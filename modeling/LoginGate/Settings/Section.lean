import LoginGate.Settings.Dotenv
import LoginGate.Settings.Numeral
import LoginGate.Text.Case
import LoginGate.Text.Split

/-!
# Settings/Section — the three groups of settings

Storage, tokens and security. A setting is looked for under its public name and then under its own
one; at each, what is given directly comes first, then the variables of the process, then those of
the file. Names are compared without regard to letter case. Errors name the setting as it was found.
What is given directly may also say how the variables are to be read.
-/

namespace LoginGate.Settings

/-- Where settings come from. -/
structure Sources where
  process : List Dotenv.Binding
  file : List Dotenv.Binding
  /-- Whether the letter case of variables counts. -/
  exactNames : Bool := false
  /-- Whether an empty variable counts as missing. -/
  skipEmpty : Bool := false
  /-- What stands before a setting's own name in the name of its variable. -/
  ownStart : String := ""

/-- Equality of names without regard to letter case. -/
def sameName (s t : String) : Bool := Text.lower s.toList == Text.lower t.toList

/-- The variable of a name, the last one if there are several. -/
def bound? (bindings : List Dotenv.Binding) (name : String) : Option String :=
  let same (b : Dotenv.Binding) : Bool := sameName (String.ofList b.1) name
  ((bindings.reverse.find? same).bind (·.2)).map String.ofList

namespace Sources

/-- The sources as what is given directly says to read them. The only file there is goes by the name
`.env`. -/
def adjusted (sources : Sources) (given : List (String × Json)) : Sources :=
  let on (name : String) : Bool := (Json.lookup? name given).any Json.isTruthy
  { sources with
    file := match Json.lookup? "_env_file" given with
      | none | some (.text ".env") => sources.file
      | some _ => []
    exactNames := on "_case_sensitive"
    skipEmpty := on "_env_ignore_empty"
    ownStart := match Json.lookup? "_env_prefix" given with
      | some (.text s) => s
      | _ => "" }

/-- The variable of a name, from the process or else from the file. -/
def readVar? (sources : Sources) (name : String) : Option Json :=
  let among (bindings : List Dotenv.Binding) : Option String :=
    let known := bindings.filter fun b =>
      (!sources.exactNames || b.1 == name.toList) && !(sources.skipEmpty && b.2 == some [])
    bound? known name
  ((among sources.process).or (among sources.file)).map Json.text

end Sources

/-- A setting that is given directly, and the name it then goes by: the public one, unless its own
one is there letter by letter. -/
def given? (given : List (String × Json)) (publicName ownName : String) : Option (String × Json) :=
  let member (name : String) : Option (String × Json) := given.find? fun m => sameName m.1 name
  ((member publicName).or (member ownName)).map fun m =>
    (if given.any (·.1 == ownName) then ownName else publicName, m.2)

/-- **A setting as it is found**: the name it goes by, and its value. -/
def find? (sources : Sources) (given : List (String × Json)) (publicName ownName : String) :
    Option (String × Json) :=
  let ofVariable (name bound : String) : Option (String × Json) :=
    (sources.readVar? bound).map fun value => (name, value)
  ((given? given publicName ownName).or (ofVariable publicName publicName)).or
    (ofVariable ownName (sources.ownStart ++ ownName))

/-- A setting checked, or its default. -/
def setting {α : Type} (sources : Sources) (given : List (String × Json))
    (publicName ownName : String) (default : α) (check : Json → Checked α) : Checked α :=
  match find? sources given publicName ownName with
  | none => .ok default
  | some (name, value) => Checked.under name (check value)

/-- How to reach the storage. -/
structure Database where
  url : String
  poolSize : Int
  maxOverflow : Int
  poolTimeout : Binary64
  statementTimeoutMs : Int
  deriving DecidableEq

/-- How tokens are signed and how long they and sessions last. -/
structure Tokens where
  secret : String
  algorithm : String
  issuer : Option String
  accessTtlSeconds : Int
  sessionTtlDays : Int
  deriving DecidableEq

/-- How the refresh cookie is set and who may call from other origins. -/
structure Security where
  cookieSecure : Bool
  cookieSamesite : String
  refreshCookieName : String
  refreshCookiePath : String
  allowedOrigins : List String
  deriving DecidableEq

/-- The least time to wait for a connection: a tenth of a second. -/
def leastPoolTimeout : Binary64 := .ofDecimal false 1 (-1)

/-- The settings of the storage. -/
def Database.load (sources : Sources) (given : List (String × Json)) : Checked Database := do
  let sources := sources.adjusted given
  let (url, poolSize, maxOverflow, poolTimeout, statementTimeoutMs) ←
    Checked.both (setting sources given "DATABASE_URL" "url" "sqlite:///sessionauth.db" Json.asText)
      (Checked.both (setting sources given "DATABASE_POOL_SIZE" "pool_size" 10 (integerFrom 1))
        (Checked.both
          (setting sources given "DATABASE_MAX_OVERFLOW" "max_overflow" 5 (integerFrom 0))
          (Checked.both
            (setting sources given "DATABASE_POOL_TIMEOUT" "pool_timeout" (.ofInt 30)
              (realFrom leastPoolTimeout))
            (setting sources given "DATABASE_STATEMENT_TIMEOUT_MS" "statement_timeout_ms" 5000
              (integerFrom 1)))))
  return { url, poolSize, maxOverflow, poolTimeout, statementTimeoutMs }

/-- The algorithms that tokens may be signed with. -/
def algorithms : List String := ["HS256", "HS384", "HS512"]

/-- An algorithm, in any letter case. -/
def algorithmOf (value : Json) : Checked String := do
  let s ← value.asText
  let name := String.ofList (Text.upper s.toList)
  if name ∈ algorithms then return name else .fail "value_error"

/-- A text or null. -/
def textOrNull : Json → Checked (Option String)
  | .null => .ok none
  | value => value.asText.map some

/-- The settings of tokens and sessions. -/
def Tokens.load (sources : Sources) (given : List (String × Json)) : Checked Tokens := do
  let sources := sources.adjusted given
  let (secret, algorithm, issuer, accessTtlSeconds, sessionTtlDays) ←
    Checked.both (setting sources given "JWT_SECRET" "secret" "dev" Json.asText)
      (Checked.both (setting sources given "JWT_ALGORITHM" "algorithm" "HS256" algorithmOf)
        (Checked.both (setting sources given "JWT_ISSUER" "issuer" none textOrNull)
          (Checked.both
            (setting sources given "ACCESS_TOKEN_TTL_SECONDS" "access_ttl_seconds" 900
              (integerFrom 1))
            (setting sources given "SESSION_TTL_DAYS" "session_ttl_days" 15 (integerFrom 1)))))
  return { secret, algorithm, issuer, accessTtlSeconds, sessionTtlDays }

/-- **A switch is on** if it is one of the words for that, or anything but a text that counts as
something. -/
def isOn : Json → Bool
  | .text s => ["1", "true", "yes"].contains (String.ofList (Text.lower s.toList))
  | .brokenText => false
  | value => value.isTruthy

/-- Origins as text: separated by commas, trimmed, and not empty. -/
def originsOfText (s : String) : List String :=
  (((Text.splitAll ',' s.toList).map Text.trim).filter (· ≠ [])).map String.ofList

/-- The origins that may call. -/
def originsOf : Json → Checked (List String)
  | .text s => .ok (originsOfText s)
  | .array items => Checked.each Json.asText 0 items
  | .brokenText => .error [⟨"0", "string_unicode"⟩]
  | _ => .fail "list_type"

/-- The settings of the cookie and of origins. -/
def Security.load (sources : Sources) (given : List (String × Json)) : Checked Security := do
  let sources := sources.adjusted given
  let (cookieSecure, cookieSamesite, refreshCookieName, refreshCookiePath, allowedOrigins) ←
    Checked.both (setting sources given "COOKIE_SECURE" "cookie_secure" false fun v => .ok (isOn v))
      (Checked.both (setting sources given "COOKIE_SAMESITE" "cookie_samesite" "Strict" Json.asText)
        (Checked.both
          (setting sources given "REFRESH_COOKIE_NAME" "refresh_cookie_name" "refresh_token"
            Json.asText)
          (Checked.both
            (setting sources given "REFRESH_COOKIE_PATH" "refresh_cookie_path" "/api/v1/auth"
              Json.asText)
            (setting sources given "ALLOWED_ORIGINS" "allowed_origins" ["*"] originsOf))))
  return { cookieSecure, cookieSamesite, refreshCookieName, refreshCookiePath, allowedOrigins }

/-- The public names of the settings of a group. -/
structure Group where
  name : String
  publicNames : List String

/-- The storage group. -/
def databaseGroup : Group :=
  ⟨"database", ["DATABASE_URL", "DATABASE_POOL_SIZE", "DATABASE_MAX_OVERFLOW",
    "DATABASE_POOL_TIMEOUT", "DATABASE_STATEMENT_TIMEOUT_MS"]⟩

/-- The token group. -/
def tokensGroup : Group :=
  ⟨"tokens", ["JWT_SECRET", "JWT_ALGORITHM", "JWT_ISSUER", "ACCESS_TOKEN_TTL_SECONDS",
    "SESSION_TTL_DAYS"]⟩

/-- The security group. -/
def securityGroup : Group :=
  ⟨"security", ["COOKIE_SECURE", "COOKIE_SAMESITE", "REFRESH_COOKIE_NAME", "REFRESH_COOKIE_PATH",
    "ALLOWED_ORIGINS"]⟩

end LoginGate.Settings
