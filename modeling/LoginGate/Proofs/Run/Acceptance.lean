import LoginGate.Proofs.Loaded
import LoginGate.Proofs.Run.Access
import LoginGate.Proofs.Run.Credentials

/-!
# Proofs/Run/Acceptance — which configurations let anyone in

A configuration is checked when it is loaded and when the service is made, setting by setting. That
whoever logs in is then let in takes more: the secret has to be one to sign with, there have to be
dates for the token and the session to expire at, and the token has to name the issuer that its
verification looks for. An empty issuer passes every check, is left out of the tokens, and is looked
for all the same.
-/

namespace LoginGate

/-! ## An issuer without a name -/

namespace Claims

/-- **A signer whose issuer is empty finds its own claims wanting.** -/
theorem judge_claims_ne_ok {s : Signer} (unnamed : s.issuer = some "") (user : Uuid)
    (issued expiry now : Int) (u : Uuid) :
    judge s.issuer (s.claims user issued expiry) now ≠ .ok u := by
  have missed : issuerFits s.issuer (s.claims user issued expiry) = false := by
    simp [issuerFits, lookup?_claims, unnamed, Option.filter]
  unfold judge
  rw [missed]
  simp only [Bool.false_and, Bool.not_false, if_true]
  split
  · rintro ⟨⟩
  · split
    · rintro ⟨⟩
    · split <;> rintro ⟨⟩

end Claims

namespace Signer

variable {s : Signer} {user : Uuid} {now : Instant} {token : String}

/-- So it verifies none of its own tokens. -/
theorem verify_ne_ok_of_unnamed (unnamed : s.issuer = some "")
    (issued : s.issue user now = .ok token) (later : Instant) (u : Uuid) :
    s.verify token later ≠ .ok u := by
  obtain ⟨expiry, -, opened⟩ := open?_of_issue issued
  intro verified
  unfold verify at verified
  rw [opened] at verified
  simp only at verified
  split at verified
  · exact nomatch verified
  split at verified
  · exact nomatch verified
  split at verified
  · next judged => exact Claims.judge_claims_ne_ok unnamed user _ _ _ _ judged
  · exact nomatch verified

end Signer

/-! ## What a login needs, and what its token needs -/

/-- **A configuration works** at a time: its tokens name the issuer that is looked for, its secret
is one to sign with, there are dates for a token and a session to expire at, and the clock of tokens
does not round the lifetime of a token away. -/
structure Config.Works (config : Config) (now : Instant) : Prop where
  issuer : config.tokens.issuer ≠ some ""
  secret : Key.isForeign config.tokens.secret = false
  tokenExpiry : (Instant.plus? now (config.tokens.accessTtlSeconds * Instant.perSecond)).isSome
  sessionExpiry : (Instant.plus? now (config.tokens.sessionTtlDays * Instant.perDay)).isSome
  unrounded : Instant.clockSecond now < Instant.second now + config.tokens.accessTtlSeconds

/-- The clock rounds no lifetime away before the year 2514, and later none of two seconds. -/
theorem Config.unrounded_of_lasting {config : Config} {now : Instant}
    (date : Instant.isDate now = true) (least : 1 ≤ config.tokens.accessTtlSeconds)
    (lasting : now.natAbs < 2 ^ 34 * 1000000 ∨ 2 ≤ config.tokens.accessTtlSeconds) :
    Instant.clockSecond now < Instant.second now + config.tokens.accessTtlSeconds := by
  have second : Instant.second (now + config.tokens.accessTtlSeconds * Instant.perSecond) =
      Instant.second now + config.tokens.accessTtlSeconds :=
    Int.add_mul_ediv_right _ _ (by decide)
  rw [← second]
  refine Instant.clockSecond_lt_second_add date ?_
  unfold Instant.perSecond
  omega

namespace Run

variable {service : Service} {σ : State} {u : User} {login password : Argument} {agent : String}
  {ip : Option String}

/-- A login with the right credentials succeeds if a token can be signed and there are dates for it
and for the session to expire at, and only then. -/
theorem admitted_iff (covers : service.supply.Covers σ.world) (calm : σ.world.faultIn = 0)
    (fresh : service.supply.Unrepeated σ.world.withId.withToken)
    (known : login.text?.bind σ.world.store.userByLogin? = some u)
    (fit : Service.fits password u.passwordHash = .ok true) (agent : String) (ip : Option String) :
    (∃ a, (step service σ (.login login password (.text agent) (.ofOption ip))).1 =
      .ok (.admitted a)) ↔
    service.signer.CanSign ∧ (Instant.plus? σ.world.now service.signer.lifetime).isSome ∧
      (Instant.plus? σ.world.now service.sessionSpan).isSome := by
  constructor
  · rintro ⟨a, admitted⟩
    obtain ⟨_, _, _, _, -, ends⟩ := loginEnd_of_admitted admitted
    cases ends with
    | admitted v expires _ _ _ _ issued within =>
      refine ⟨Signer.canSign_of_issue issued, ?_, within ▸ rfl⟩
      cases beyond : Instant.plus? σ.world.now service.signer.lifetime with
      | none => exact nomatch (Signer.issue_of_overlong beyond v.id).symm.trans issued
      | some expiry => rfl
  · rintro ⟨canSign, tokenExpiry, sessionExpiry⟩
    exact admitted_of_fits covers
      ⟨by omega, by omega, canSign, tokenExpiry, sessionExpiry, fresh⟩ known fit agent ip

/-- Nobody is verified by a token that does not name the issuer that is looked for. -/
theorem step_verify_ne_of_unnamed (unnamed : service.signer.issuer = some "") {user : Uuid}
    {now : Instant} {token : String} (issued : service.signer.issue user now = .ok token)
    (τ : State) (id : Uuid) : (step service τ (.verify token)).1 ≠ .ok (.verified id) := by
  intro verified
  obtain ⟨verifiedId, verified, -⟩ := State.ok_of_after verified
  have ends := Service.verifyEnd service token τ.world
  generalize service.verify token τ.world = p at verified ends
  cases ends with
  | refused => cases verified
  | accepted u signed => exact Signer.verify_ne_ok_of_unnamed unnamed issued _ _ signed

/-- **What an admission leaves behind**: a token that has been issued for the user at the time of
the login, and a state of that time in which the user is still there. -/
theorem left_of_admitted (known : login.text?.bind σ.world.store.userByLogin? = some u)
    {a : Admission} {τ : State}
    (admitted : step service σ (.login login password (.text agent) (.ofOption ip)) =
      (.ok (.admitted a), τ)) :
    service.signer.issue u.id σ.world.now = .ok a.accessToken ∧
      Instant.isDate σ.world.now = true ∧ u ∈ τ.world.store.users ∧
      τ.world.now = σ.world.now ∧ τ.world.faultIn ≤ σ.world.faultIn := by
  obtain ⟨_, _, _, _, same, ends⟩ := loginEnd_of_admitted (congrArg Prod.fst admitted)
  obtain ⟨rfl, rfl, rfl, rfl⟩ := Event.login.inj same
  rw [admitted] at ends
  cases ends with
  | admitted v expiry _ _ found _ issued within _ _ _ after =>
    obtain rfl := Option.some.inj (found.symm.trans known)
    obtain ⟨name, -, found⟩ := Option.bind_eq_some_iff.mp found
    have there : v ∈ τ.world.store.users := by
      rw [after.store_eq]
      exact (Store.userByLogin?_eq_some found).1
    exact ⟨issued, (Instant.plus?_eq_some within).1, there, after.now_eq, after.faultIn_le⟩

/-- **The token of a login is verified at once** if it names the issuer that is looked for, the
clock does not round its lifetime away and the account is not blocked, and only then. -/
theorem verified_iff {config : Config} {hashMethod decoyPassword : String} {supply : Supply}
    (made : Service.make config hashMethod decoyPassword supply = .ok service)
    (keyed : σ.world.store.Keyed) (apart : σ.world.store.Apart) (calm : σ.world.faultIn = 0)
    (known : login.text?.bind σ.world.store.userByLogin? = some u) {a : Admission}
    (admitted : (step service σ (.login login password (.text agent) (.ofOption ip))).1 =
      .ok (.admitted a)) :
    (step service (step service σ (.login login password (.text agent) (.ofOption ip))).2
      (.verify a.accessToken)).1 = .ok (.verified u.id) ↔
    config.tokens.issuer ≠ some "" ∧
      Instant.clockSecond σ.world.now <
        Instant.second σ.world.now + config.tokens.accessTtlSeconds ∧ u.isBlocked = false := by
  have owner := owner_of_admitted known admitted
  have granted := Grants.admitted a admitted
  have expires := fun named => expires_of_granted made named keyed granted
  have does := Service.madeFor_of_make made
  obtain ⟨τ, stepped⟩ : ∃ τ, step service σ (.login login password (.text agent) (.ofOption ip)) =
    (.ok (.admitted a), τ) := ⟨_, Prod.ext admitted rfl⟩
  obtain ⟨issued, date, there, now, faultIn⟩ := left_of_admitted known stepped
  have apart' : (step service σ (.login login password (.text agent)
    (.ofOption ip))).2.world.store.Apart := step_apart apart
  rw [stepped] at apart' ⊢
  have answers : τ.world.faultIn ≠ 1 := by omega
  by_cases named : config.tokens.issuer = some ""
  · have unnamed := does.issuer_eq.trans named
    exact iff_of_false (step_verify_ne_of_unnamed unnamed issued τ u.id) fun h => h.1 named
  · rw [step_verify apart' there answers (now.symm ▸ date) (now.symm ▸ owner ▸ expires named), now]
    split_ifs with shown blocked
    · exact iff_of_false nofun fun h => absurd h.2.1 (Int.not_lt.mpr shown)
    · exact iff_of_false nofun fun h => nomatch blocked.symm.trans h.2.2
    · exact iff_of_true rfl ⟨named, Int.not_le.mp shown, by simpa using blocked⟩

/-- **What it takes for a registered user to be let in.** At every state after a registration, as
long as the storage answers and no draw repeats, a login by either name with the password succeeds
and its token is verified at once as the user's exactly if the configuration works and the account
is not blocked. -/
theorem letIn_iff {sources : Settings.Sources} {config : Config} {printed : String}
    (loaded : Config.load sources = .ok (config, printed)) {hashMethod decoyPassword : String}
    {supply : Supply} (made : Service.make config hashMethod decoyPassword supply = .ok service)
    (salts : ∀ n, '$' ∉ (service.supply.salt n).toList) {now : Instant} {threshold : Log.Level}
    (past : List Event) {username email password : Argument} {id : Uuid}
    (registered : (step service (run service (start now threshold) past)
      (.register username email password)).1 = .ok (.registered id))
    (rest : List Event) {τ : State}
    (later : run service (start now threshold)
      (past ++ .register username email password :: rest) = τ)
    (calm : τ.world.faultIn = 0) (fresh : service.supply.Unrepeated τ.world.withId.withToken)
    {login : Argument} (named : login = username ∨ login = email) (agent : String)
    (ip : Option String) :
    ((∃ a, (step service τ (.login login password (.text agent) (.ofOption ip))).1 =
        .ok (.admitted a) ∧
      (step service (step service τ (.login login password (.text agent) (.ofOption ip))).2
        (.verify a.accessToken)).1 = .ok (.verified id)) ↔
      config.Works τ.world.now ∧ ∃ u, τ.world.store.user? id = some u ∧ u.isBlocked = false) ∧
    (Instant.isDate τ.world.now = true →
      τ.world.now.natAbs < 2 ^ 34 * 1000000 ∨ 2 ≤ config.tokens.accessTtlSeconds →
      Instant.clockSecond τ.world.now <
        Instant.second τ.world.now + config.tokens.accessTtlSeconds) := by
  have usable := Config.usable_of_load loaded
  refine ⟨?_, fun date lasting => Config.unrounded_of_lasting date usable.access lasting⟩
  have does := Service.madeFor_of_make made
  have keyed : τ.world.store.Keyed := later ▸ run_keyed service (start_keyed now threshold) _
  have apart : τ.world.store.Apart := later ▸ run_apart service (start_apart now threshold) _
  have covers : service.supply.Covers τ.world :=
    later ▸ run_covers (start_covers service now threshold) _
  obtain ⟨u, hu, rfl, enrolled, known⟩ := known_of_registered registered later named
  have succeeds := admitted_iff covers calm fresh known (enrolled.fits salts) agent ip
  rw [Signer.canSign_iff (does.algorithm_eq ▸ usable.algorithm), does.secret_eq, does.lifetime_eq,
    does.sessionSpan_eq] at succeeds
  constructor
  · rintro ⟨a, admitted, verified⟩
    obtain ⟨secret, tokenExpiry, sessionExpiry⟩ := succeeds.mp ⟨a, admitted⟩
    obtain ⟨issuer, unrounded, free⟩ :=
      (verified_iff made keyed apart calm known admitted).mp verified
    exact ⟨⟨issuer, secret, tokenExpiry, sessionExpiry, unrounded⟩, u, apart.user?_eq_some hu, free⟩
  · rintro ⟨works, v, found, free⟩
    obtain rfl := Option.some.inj (found.symm.trans (apart.user?_eq_some hu))
    obtain ⟨a, admitted⟩ :=
      succeeds.mpr ⟨works.secret, works.tokenExpiry, works.sessionExpiry⟩
    have verified := verified_iff made keyed apart calm known admitted
    exact ⟨a, admitted, verified.mpr ⟨works.issuer, works.unrounded, free⟩⟩

/-! ## Nothing set, and an issuer set to nothing -/

/-- No variable is set. -/
def unset : Settings.Sources where
  process := []
  file := []

theorem load_unset : Config.load unset = .ok (plainConfig, "") := by rfl

/-- Five microseconds have passed since the registration. -/
def registered : State := run plain (start 0 .info) ([] ++ registering :: [.advance 5])

set_option maxRecDepth 100000 in
theorem registered_spec : (registered.world.store.user? (Uuid.ofNat 1)).map (·.isBlocked) =
    some false ∧ registered.world.ids = 1 ∧ registered.world.faultIn = 0 ∧
    registered.world.now = 5 := by
  decide +kernel

theorem plain_works : plainConfig.Works 5 where
  issuer := by decide
  secret := by decide +kernel
  tokenExpiry := by decide
  sessionExpiry := by decide
  unrounded := by decide +kernel

/-- With nothing set, a registered user is let in. -/
theorem registered_letIn : Config.load unset = .ok (plainConfig, "") ∧
    Service.make plainConfig "pbkdf2:sha256:1" "decoy" (sample 900).supply = .ok plain ∧
    (∀ n, '$' ∉ (plain.supply.salt n).toList) ∧
    (step plain (run plain (start 0 .info) []) registering).1 = .ok (.registered (Uuid.ofNat 1)) ∧
    registered.world.faultIn = 0 ∧ plain.supply.Unrepeated registered.world.withId.withToken ∧
    ∃ a, (step plain registered (.login (.text "alice") (.text "Passw0rd!") (.text "agent")
        .nothing)).1 = .ok (.admitted a) ∧
      (step plain (step plain registered (.login (.text "alice") (.text "Passw0rd!")
        (.text "agent") .nothing)).2 (.verify a.accessToken)).1 =
          .ok (.verified (Uuid.ofNat 1)) := by
  obtain ⟨flag, ids, calm, now⟩ := registered_spec
  have salts : ∀ n, '$' ∉ (plain.supply.salt n).toList := sample_salts 900
  have fresh : plain.supply.Unrepeated registered.world.withId.withToken :=
    sample_unrepeated 900 (show registered.world.ids + 1 < _ from ids ▸ by decide)
  have answer : (step plain (run plain (start 0 .info) []) registering).1 =
    .ok (.registered (Uuid.ofNat 1)) := rfl
  have free : ∃ u, registered.world.store.user? (Uuid.ofNat 1) = some u ∧ u.isBlocked = false :=
    Option.map_eq_some_iff.mp flag
  have letIn := letIn_iff load_unset make_plain salts [] answer [.advance 5] (τ := registered) rfl
    calm fresh (.inl rfl) "agent" none
  exact ⟨load_unset, make_plain, salts, answer, calm, fresh, letIn.1.mpr ⟨now ▸ plain_works, free⟩⟩

/-- The issuer is set to an empty text. -/
def nameless : Settings.Sources where
  process := [("JWT_ISSUER".toList, some [])]
  file := []

/-- The settings that are in force then. -/
def namelessConfig : Config :=
  { plainConfig with tokens := { plainConfig.tokens with issuer := some "" } }

/-- The service made for them. -/
def namelessService : Service :=
  { plain with signer := { plain.signer with issuer := some "" } }

theorem load_nameless : Config.load nameless = .ok (namelessConfig, "") := by rfl

theorem make_nameless : Service.make namelessConfig "pbkdf2:sha256:1" "decoy" (sample 900).supply =
    .ok namelessService :=
  Service.make_eq_ok_iff.mpr
    ⟨namelessService.signer, namelessService.sessionSpan, namelessService.decoyHash, rfl, rfl,
      hash_decoy, rfl⟩

/-- The reason for which the token of a login is refused at once. -/
def refusal? (service : Service) (σ : State) (login : Event) : Option Denial :=
  match step service σ login with
  | (.ok (.admitted a), τ) =>
    match (step service τ (.verify a.accessToken)).1 with
    | .error (.app (.authentication reason)) => some reason
    | _ => none
  | _ => none

set_option maxRecDepth 100000 in
/-- **An empty issuer is accepted, and nobody is let in**: the registration and the login succeed,
and the token of the login is refused at once. -/
theorem nameless_refused : Config.load nameless = .ok (namelessConfig, "") ∧
    Service.make namelessConfig "pbkdf2:sha256:1" "decoy" (sample 900).supply =
      .ok namelessService ∧
    (step namelessService (start 0 .info) registering).1 = .ok (.registered (Uuid.ofNat 1)) ∧
    refusal? namelessService (run namelessService (start 0 .info) [registering]) loggingIn =
      some .invalidToken :=
  ⟨load_nameless, make_nameless, rfl, by decide +kernel⟩

end Run
end LoginGate
