import LoginGate.Settings.Section

/-!
# Settings/Config — the whole configuration

The top level has three settings of its own and the three groups. A group may be given as a whole by
a variable that holds a JSON object; what the object leaves out comes from the single variables. A
configuration for production is refused if its signing secret is weak, and warned about if the
refresh cookie is not confined to secure connections; the same check follows every assignment.
-/

namespace LoginGate

/-- The configuration. -/
structure Config where
  appEnv : String
  debugLogging : Bool
  logLevel : String
  database : Settings.Database
  tokens : Settings.Tokens
  security : Settings.Security
  deriving DecidableEq

/-- Why there is no configuration. -/
inductive ConfigError where
  | invalid (errors : List FieldError)
  /-- A group's variable does not hold JSON. -/
  | undecodable
  /-- A group's variable holds JSON that is nested too deeply. -/
  | tooDeep
  /-- The process ends; this is all it has printed. -/
  | refused (printed : String)
  deriving DecidableEq, Repr

namespace Config

/-- Secrets that must not be used in production. -/
def weakSecrets : List String := ["dev", "development", "test", "change-me", ""]

/-- Whether the configuration is one for production. -/
def isProduction (c : Config) : Bool :=
  ["production", "prod"].contains (String.ofList (Text.lower c.appEnv.toList))

/-- Whether the signing secret will do for production: at least 32 characters. -/
def hasStrongSecret (c : Config) : Bool :=
  !(weakSecrets.contains c.tokens.secret) && 32 ≤ c.tokens.secret.length

/-- What is printed when the secret will not do. -/
def refusal : String :=
  "\n❌ CRITICAL SECURITY ERROR: Insecure JWT_SECRET detected in production!\n" ++
    "   JWT_SECRET must be a random value of at least 32 characters.\n" ++
    "   Generate one with: python -c \"import secrets; print(secrets.token_urlsafe(48))\"\n\n"

/-- What is printed when the cookie may travel over insecure connections. -/
def cookieWarning : String :=
  "\n⚠️  PRODUCTION SECURITY WARNING: refresh cookie Secure flag is DISABLED (use HTTPS!)\n\n"

/-- **The check for production**, after what has been printed so far. -/
def check (c : Config) (printed : String) : Except ConfigError (Config × String) :=
  if !c.isProduction then .ok (c, printed)
  else if !c.hasStrongSecret then .error (.refused (printed ++ refusal))
  else if !c.security.cookieSecure then .ok (c, printed ++ cookieWarning)
  else .ok (c, printed)

/-- A member in the place of an earlier one of its name, or at the end. -/
def putMember (m : String × Json) : List (String × Json) → List (String × Json)
  | [] => [m]
  | n :: rest => if n.1 = m.1 then m :: rest else n :: putMember m rest

/-- Members joined by name: each where it first stands, with its last value. -/
def joined (members : List (String × Json)) : List (String × Json) :=
  members.foldl (fun known m => putMember m known) []

/-- The members of a group's object under the public names that they match in some letter case;
others stay as they are. -/
def publicMembers (group : Settings.Group) (members : List (String × Json)) :
    List (String × Json) :=
  joined <| (joined members).map fun (name, value) =>
    ((group.publicNames.find? (Settings.sameName name)).getD name, value)

/-- What a group's variable holds: nothing, or a document. -/
def groupVariable (bindings : List Dotenv.Binding) (group : Settings.Group) :
    Except ConfigError (Option Json) :=
  match Settings.bound? bindings group.name with
  | none => .ok none
  | some text =>
    match Json.ofText text with
    | .error .tooDeep => .error .tooDeep
    | .error _ => .error .undecodable
    | .ok .null => .ok none
    | .ok (.object members) => .ok (some (.object (publicMembers group members)))
    | .ok doc => .ok (some doc)

/-- A group's document from both sources: objects are joined, and what the process says counts. -/
def groupDocument (sources : Settings.Sources) (group : Settings.Group) :
    Except ConfigError (Option Json) := do
  let process ← groupVariable sources.process group
  let file ← groupVariable sources.file group
  match process, file with
  | some (.object ms), some (.object ns) => return some (.object (joined (ns ++ ms)))
  | some doc, _ => return some doc
  | none, doc => return doc

/-- A group given as a document. -/
def givenGroup {α : Type} (load : List (String × Json) → Checked α) (doc : Json) : Checked α :=
  match doc with
  | .object members => load (joined members)
  | _ => .fail "model_type"

/-- A group from its document, or else from single variables alone: then its errors end everything,
whatever other groups are like. -/
def group {α : Type} (g : Settings.Group) (load : List (String × Json) → Checked α)
    (doc : Option Json) : Except ConfigError (Checked α) :=
  match doc with
  | some doc => .ok (Checked.under g.name (givenGroup load doc))
  | none =>
    match load [] with
    | .ok a => .ok (.ok a)
    | .error errors => .error (.invalid errors)

/-- A text variable of the process or of the file. -/
def topLevel? (sources : Settings.Sources) (name : String) : Option String :=
  (Settings.bound? sources.process name).or (Settings.bound? sources.file name)

/-- **Load the configuration**, and what was printed on the way. -/
def load (sources : Settings.Sources) : Except ConfigError (Config × String) := do
  let databaseDoc ← groupDocument sources Settings.databaseGroup
  let tokensDoc ← groupDocument sources Settings.tokensGroup
  let securityDoc ← groupDocument sources Settings.securityGroup
  let database ← group Settings.databaseGroup (Settings.Database.load sources) databaseDoc
  let tokens ← group Settings.tokensGroup (Settings.Tokens.load sources) tokensDoc
  let security ← group Settings.securityGroup (Settings.Security.load sources) securityDoc
  match Checked.both database (Checked.both tokens security) with
  | .error errors => .error (.invalid errors)
  | .ok (database, tokens, security) =>
    let config : Config :=
      { appEnv := (topLevel? sources "APP_ENV").getD "development"
        debugLogging := (topLevel? sources "DEBUG_LOGGING").any fun s => Settings.isOn (.text s)
        logLevel := (topLevel? sources "LOG_LEVEL").getD "INFO"
        database, tokens, security }
    config.check ""

/-- The configuration with one field of the top level set. -/
def withField (sources : Settings.Sources) (c : Config) (field : String) (value : Json) :
    Checked Config :=
  Checked.under field <|
    if field = "app_env" then value.asText.map fun s => { c with appEnv := s }
    else if field = "debug_logging" then .ok { c with debugLogging := Settings.isOn value }
    else if field = "log_level" then value.asText.map fun s => { c with logLevel := s }
    else if field = "database" then
      (givenGroup (Settings.Database.load sources) value).map fun g => { c with database := g }
    else if field = "tokens" then
      (givenGroup (Settings.Tokens.load sources) value).map fun g => { c with tokens := g }
    else if field = "security" then
      (givenGroup (Settings.Security.load sources) value).map fun g => { c with security := g }
    else .fail "no_such_attribute"

/-- **Assign a field** of a configuration; the check for production follows. -/
def assign (sources : Settings.Sources) (c : Config) (printed : String) (field : String)
    (value : Json) : Except ConfigError (Config × String) :=
  match withField sources c field value with
  | .error errors => .error (.invalid errors)
  | .ok c => c.check printed

end Config
end LoginGate
