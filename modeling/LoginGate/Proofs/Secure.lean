import LoginGate.Proofs.Loaded

/-!
# Proofs/Secure — no insecure configuration survives

What a setting can be is decided by its check, under whatever name and in whatever source it has
been found. The rule for production ties the signing secret to a setting of the top level, so it is
not the check of a setting: it follows the loading and every assignment, and looks at the outcome as
a whole. So wherever a configuration gets to by assignments, each bound holds, and in production the
secret is a strong one.
-/

namespace LoginGate

/-! ## The storage -/

/-- Nothing is below what is no number. -/
theorem Binary64.le_nan (x : Binary64) : x.le .nan = false := by
  cases x <;> rfl

namespace Settings

theorem le_of_realFrom {least x : Binary64} {value : Json} (h : realFrom least value = .ok x) :
    least.le x = true := by
  obtain ⟨y, -, checked⟩ := bind_eq_ok.mp h
  split at checked
  · next above =>
    obtain rfl := Except.ok.inj checked
    exact above
  · exact nomatch checked

/-- **What is known of the settings of the storage.** -/
structure Database.Usable (d : Database) : Prop where
  poolSize : 1 ≤ d.poolSize
  maxOverflow : 0 ≤ d.maxOverflow
  poolTimeout : leastPoolTimeout.le d.poolTimeout = true
  statementTimeoutMs : 1 ≤ d.statementTimeoutMs

/-- **Settings of the storage that load are usable.** -/
theorem Database.usable_of_load {sources : Sources} {given : List (String × Json)} {d : Database}
    (h : Database.load sources given = .ok d) : d.Usable := by
  obtain ⟨_, found, made⟩ := bind_eq_ok.mp h
  obtain rfl := Except.ok.inj made
  obtain ⟨-, rest⟩ := Checked.both_eq_ok.mp found
  obtain ⟨poolSize, rest⟩ := Checked.both_eq_ok.mp rest
  obtain ⟨maxOverflow, rest⟩ := Checked.both_eq_ok.mp rest
  obtain ⟨poolTimeout, statementTimeoutMs⟩ := Checked.both_eq_ok.mp rest
  constructor
  · exact setting_induct (by decide) (fun _ _ => le_of_integerFrom) poolSize
  · exact setting_induct (by decide) (fun _ _ => le_of_integerFrom) maxOverflow
  · exact setting_induct (by decide +kernel) (fun _ _ => le_of_realFrom) poolTimeout
  · exact setting_induct (by decide) (fun _ _ => le_of_integerFrom) statementTimeoutMs

end Settings

namespace Config

variable {sources : Settings.Sources} {config config' : Config} {printed printed' : String}

/-! ## Production -/

theorem isProduction_iff : config.isProduction = true ↔
    String.ofList (Text.lower config.appEnv.toList) ∈ ["production", "prod"] :=
  List.contains_iff_mem

theorem hasStrongSecret_iff : config.hasStrongSecret = true ↔
    32 ≤ config.tokens.secret.length ∧ config.tokens.secret ∉ weakSecrets := by
  simp [hasStrongSecret, and_comm]

/-- **What the check for production lets pass has a strong secret** if it is one for production. -/
theorem hasStrongSecret_of_check (passed : config.check printed = .ok (config', printed'))
    (production : config.isProduction = true) : config.hasStrongSecret = true := by
  cases strong : config.hasStrongSecret with
  | true => rfl
  | false =>
    unfold check at passed
    rw [production, strong] at passed
    exact nomatch passed

/-! ## The whole configuration -/

/-- **A configuration without insecure settings.** -/
structure Secure (c : Config) : Prop where
  algorithm : c.tokens.algorithm ∈ ["HS256", "HS384", "HS512"]
  accessTtlSeconds : 1 ≤ c.tokens.accessTtlSeconds
  sessionTtlDays : 1 ≤ c.tokens.sessionTtlDays
  poolSize : 1 ≤ c.database.poolSize
  maxOverflow : 0 ≤ c.database.maxOverflow
  poolTimeout : Settings.leastPoolTimeout.le c.database.poolTimeout = true
  poolTimeout_ne_nan : c.database.poolTimeout ≠ .nan
  statementTimeoutMs : 1 ≤ c.database.statementTimeoutMs
  secret : String.ofList (Text.lower c.appEnv.toList) ∈ ["production", "prod"] →
    32 ≤ c.tokens.secret.length ∧ c.tokens.secret ∉ weakSecrets

/-- **A configuration whose groups have been loaded is secure** if the check lets it pass. -/
theorem Loaded.secure (loaded : config.Loaded)
    (passed : config.check printed = .ok (config', printed')) : config.Secure := by
  obtain ⟨_, _, database⟩ := loaded.database
  obtain ⟨_, _, tokens⟩ := loaded.tokens
  have storage := Settings.Database.usable_of_load database
  have signing := Settings.Tokens.usable_of_load tokens
  constructor
  · exact signing.algorithm
  · exact signing.access
  · exact signing.session
  · exact storage.poolSize
  · exact storage.maxOverflow
  · exact storage.poolTimeout
  · intro nan
    have above := storage.poolTimeout
    rw [nan, Binary64.le_nan] at above
    exact Bool.noConfusion above
  · exact storage.statementTimeoutMs
  · intro production
    exact hasStrongSecret_iff.mp (hasStrongSecret_of_check passed (isProduction_iff.mpr production))

/-- Assign fields one after the other. -/
def assignAll (sources : Settings.Sources) (c : Config) (printed : String) :
    List (String × Json) → Except ConfigError (Config × String)
  | [] => .ok (c, printed)
  | (field, value) :: rest => do
    let (c, printed) ← c.assign sources printed field value
    assignAll sources c printed rest

/-- **Assignments keep a configuration secure**, each as long as it is not refused. -/
theorem Loaded.assignAll_secure (loaded : config.Loaded) (secure : config.Secure)
    {assignments : List (String × Json)}
    (h : assignAll sources config printed assignments = .ok (config', printed')) :
    config'.Secure := by
  induction assignments generalizing config printed with
  | nil =>
    obtain ⟨rfl, -⟩ := Prod.mk.inj (Except.ok.inj h)
    exact secure
  | cons assignment rest ih =>
    obtain ⟨field, value⟩ := assignment
    obtain ⟨next, assigned, others⟩ := bind_eq_ok.mp h
    obtain ⟨loaded', passed⟩ := loaded.assign assigned
    exact ih loaded' (loaded'.secure passed) others

/-- **No insecure configuration survives**: whatever the process and the file say, and whatever is
assigned afterwards. -/
theorem secure_of_assigned {assignments : List (String × Json)}
    (loads : load sources = .ok (config, printed))
    (assigned : assignAll sources config printed assignments = .ok (config', printed')) :
    config'.Secure := by
  obtain ⟨loaded, passed⟩ := loaded_of_load loads
  exact loaded.assignAll_secure (loaded.secure passed) assigned

/-! ## A configuration that is promoted to production -/

/-- A group is given as a document with names in two forms, and the secret of the file is weak. -/
def drafted : Settings.Sources where
  process := [("tokens".toList, some "\x7b\"Jwt_Algorithm\": \"hs512\"\x7d".toList)]
  file := Dotenv.read [] "export jwt_secret=dev\nPOOL_SIZE='3'\n"

/-- First the secret is replaced, then the configuration is made one for production. -/
def promotion : List (String × Json) :=
  [("log_level", .text "DEBUG"),
    ("tokens", .object [("secret", .text "0123456789abcdefghijklmnopqrstuvwxyz")]),
    ("app_env", .text "Prod")]

/-- The settings that load. -/
def draft : Config where
  appEnv := "development"
  debugLogging := false
  logLevel := "INFO"
  database :=
    { url := "sqlite:///sessionauth.db", poolSize := 3, maxOverflow := 5
      poolTimeout := .ofInt 30, statementTimeoutMs := 5000 }
  tokens :=
    { secret := "dev", algorithm := "HS512", issuer := none, accessTtlSeconds := 900
      sessionTtlDays := 15 }
  security :=
    { cookieSecure := false, cookieSamesite := "Strict", refreshCookieName := "refresh_token"
      refreshCookiePath := "/api/v1/auth", allowedOrigins := ["*"] }

/-- The settings after the promotion. -/
def promoted : Config :=
  { draft with
    appEnv := "Prod"
    logLevel := "DEBUG"
    tokens := { draft.tokens with
      secret := "0123456789abcdefghijklmnopqrstuvwxyz", algorithm := "HS256" } }

set_option maxRecDepth 100000 in
theorem load_drafted : load drafted = .ok (draft, "") :=
  toOption_eq_some.mp (by decide +kernel)

set_option maxRecDepth 100000 in
theorem assignAll_promotion :
    assignAll drafted draft "" promotion = .ok (promoted, cookieWarning) :=
  toOption_eq_some.mp (by decide +kernel)

/-- The promotion goes through, and leaves nothing insecure. -/
theorem promoted_secure : load drafted = .ok (draft, "") ∧
    assignAll drafted draft "" promotion = .ok (promoted, cookieWarning) ∧
    promoted.isProduction = true ∧ promoted.Secure :=
  ⟨load_drafted, assignAll_promotion, by decide,
    secure_of_assigned load_drafted assignAll_promotion⟩

end Config
end LoginGate
