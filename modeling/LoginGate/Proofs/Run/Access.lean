import LoginGate.Proofs.Run.Records
import LoginGate.Proofs.Setup
import LoginGate.Proofs.Token

/-!
# Proofs/Run/Access — what an access token is good for

An access token names a user and the second in which it expires, and nothing in it refers to the
session. So wherever a run leads, its verification depends on the clock and on the flag of that
user's account, and on nothing else: not on other accounts, and not on what has become of the
session. The clock is the one of tokens, which counts binary64 seconds; the second that it shows is
the one of the instant for five centuries, and then may be early by less than 16 microseconds.
-/

namespace LoginGate

/-! ## One verification -/

/-- **What a verification answers**, as long as the storage does: the token is refused, or its user
is looked up. -/
theorem Service.verify_fst {service : Service} {w : World} (accessToken : String)
    (answers : w.faultIn ≠ 1) :
    (service.verify accessToken w).1 =
      match service.signer.verify accessToken w.now with
      | .error e => .error e
      | .ok user =>
        match w.store.user? user with
        | none => .error (.denied .invalidToken)
        | some u => if u.isBlocked then .error (.denied .userBlocked) else .ok user := by
  unfold Service.verify
  rw [Act.bind_eq_resume, Act.atNow_apply]
  cases service.signer.verify accessToken w.now with
  | error e => rfl
  | ok user =>
    rw [Act.resume_ok, Act.bind_eq_resume, Act.orElse_eq_recover]
    refine Store.userIsBlocked_induct
      (P := fun p => (Act.resume _ (Act.recover _ p)).1 = _) ?_ ?_ ?_
    · exact fun w' fault _ => absurd fault answers
    · intro w' _ missing _
      simp only [missing]
      rfl
    · intro u w' _ found _ _
      simp only [found, Act.recover_ok, Act.resume_ok]
      cases u.isBlocked with
      | false => rfl
      | true => rfl

/-- If the storage does not answer, no user is verified. -/
theorem Service.verify_fst_of_fault {service : Service} {w : World} (accessToken : String)
    (fault : w.faultIn = 1) :
    (service.verify accessToken w).1 =
      match service.signer.verify accessToken w.now with
      | .error e => .error e
      | .ok _ => .error Call.userIsBlocked.unanswered := by
  unfold Service.verify
  rw [Act.bind_eq_resume, Act.atNow_apply]
  cases service.signer.verify accessToken w.now with
  | error e => rfl
  | ok user =>
    rw [Act.resume_ok, Act.bind_eq_resume, Act.orElse_eq_recover]
    exact Store.userIsBlocked_induct (P := fun p => (Act.resume _ (Act.recover _ p)).1 = _)
      (fun _ _ _ => rfl) (fun _ answers _ _ => absurd fault answers)
      (fun _ _ answers _ _ _ => absurd fault answers)

/-- **A verification looks at the tables, the clock and the pending fault**, and at nothing else. -/
theorem Service.verify_fst_congr {service : Service} {w w' : World} (accessToken : String)
    (store : w'.store = w.store) (now : w'.now = w.now) (faultIn : w'.faultIn = w.faultIn) :
    (service.verify accessToken w').1 = (service.verify accessToken w).1 := by
  by_cases fault : w.faultIn = 1
  · rw [verify_fst_of_fault _ fault, verify_fst_of_fault _ (faultIn.trans fault), now]
  · rw [verify_fst _ fault, verify_fst _ (faultIn.symm ▸ fault), now, store]

namespace Run

variable {service : Service} {σ τ : State} {e : Event} {u : User} {user : Uuid} {token : String}

/-! ## Where an access token comes from -/

/-- **An event hands out an access token** to a user: a login does to the one it admits, and a
refresh to the owner of the session that holds the token presented. -/
inductive Grants (service : Service) (σ : State) (e : Event) : Uuid → String → Prop where
  | admitted (a : Admission) (answer : (step service σ e).1 = .ok (.admitted a)) :
    Grants service σ e a.user a.accessToken
  | renewed (presented : String) (pair : TokenPair) (s : Session)
    (answer : (step service σ e).1 = .ok (.renewed presented pair)) (mem : s ∈ σ.sessions)
    (held : s.refreshToken = presented) : Grants service σ e s.owner pair.accessToken

/-- **What is handed out has been issued** to the user at that time. -/
theorem issue_of_granted (keyed : σ.world.store.Keyed) (granted : Grants service σ e user token) :
    service.signer.issue user σ.world.now = .ok token := by
  cases granted with
  | admitted a answer =>
    obtain ⟨login, password, userAgent, clientIp, -, ends⟩ := loginEnd_of_admitted answer
    cases ends with
    | admitted _ _ _ _ _ _ issued => exact issued
  | renewed presented pair s answer mem held =>
    obtain ⟨session, done⟩ := completion_of_renewed answer
    cases done with
    | renewed live within answers there free issued after =>
      obtain ⟨old, hold, -, owner, same⟩ := Store.canRotate_iff.mp there
      obtain rfl := keyed.eq_of_token mem hold (held.trans same.symm)
      have owner : s.owner = session.owner := owner
      rw [owner]
      exact issued

/-- Whoever is handed a token has an account. -/
theorem exists_user_of_granted (sound : ∀ s ∈ σ.sessions, Sound service σ.world s)
    (granted : Grants service σ e user token) : ∃ u ∈ σ.world.store.users, u.id = user := by
  cases granted with
  | admitted a answer =>
    obtain ⟨login, password, userAgent, clientIp, -, ends⟩ := loginEnd_of_admitted answer
    cases ends with
    | admitted u _ _ _ known =>
      obtain ⟨name, -, known⟩ := Option.bind_eq_some_iff.mp known
      exact ⟨u, (Store.userByLogin?_eq_some known).1, rfl⟩
  | renewed presented pair s answer mem held => exact (sound s mem).owned

/-! ## Its verification -/

/-- A token is a user's until a second in which it expires, as far as the signer can tell from now
on. -/
def Expires (service : Service) (id : Uuid) (token : String) (expiry : Int) (now : Instant) :
    Prop :=
  ∀ later, now ≤ later → Instant.isDate later = true → service.signer.verify token later =
    if expiry ≤ Instant.clockSecond later then .error (.denied .tokenExpired) else .ok id

/-- **The verification of a token** depends on the clock and on the flag of the account. -/
theorem step_verify (apart : τ.world.store.Apart) (hu : u ∈ τ.world.store.users)
    (answers : τ.world.faultIn ≠ 1) (date : Instant.isDate τ.world.now = true) {expiry : Int}
    (expires : Expires service u.id token expiry τ.world.now) :
    (step service τ (.verify token)).1 =
      if expiry ≤ Instant.clockSecond τ.world.now then .error (.denied .tokenExpired)
      else if u.isBlocked then .error (.denied .userBlocked)
      else .ok (.verified u.id) := by
  have answer : (step service τ (.verify token)).1 =
    (service.verify token τ.world).1.map .verified := rfl
  rw [answer, Service.verify_fst token answers, expires τ.world.now le_rfl date]
  split_ifs with shown blocked
  · rfl
  · simp only [apart.user?_eq_some hu, blocked, if_true]
    rfl
  · simp only [apart.user?_eq_some hu, blocked]
    rfl

/-- **What an access token is good for** where a run stands: it expires in this second, and until
then it is good for the account as long as that is not blocked. -/
structure Honours (service : Service) (τ : State) (u : User) (token : String) (expiry : Int) :
    Prop where
  expired : expiry ≤ Instant.clockSecond τ.world.now →
    (step service τ (.verify token)).1 = .error (.denied .tokenExpired)
  blocked : Instant.clockSecond τ.world.now < expiry → u.isBlocked = true →
    (step service τ (.verify token)).1 = .error (.denied .userBlocked)
  accepted : Instant.clockSecond τ.world.now < expiry → u.isBlocked = false →
    (step service τ (.verify token)).1 = .ok (.verified u.id)
  /-- The clock shows the expiry from the second on that it lies in. -/
  late : expiry * Instant.perSecond ≤ τ.world.now → expiry ≤ Instant.clockSecond τ.world.now
  /-- It does not show it before, unless there are less than 16 microseconds left and the seconds
  of the clock have more than 34 bits. -/
  early : τ.world.now + 16 ≤ expiry * Instant.perSecond ∨
    τ.world.now < expiry * Instant.perSecond ∧ τ.world.now.natAbs < 2 ^ 34 * 1000000 →
      Instant.clockSecond τ.world.now < expiry
  /-- No request has a part in it but the blocking of the account. -/
  spared : ∀ events, (∀ e ∈ events, e.Spares u) →
    (step service (run service τ events) (.verify token)).1 = (step service τ (.verify token)).1
  /-- A block leaves no trace once it is lifted, whatever else has come between. -/
  lifted : u.isBlocked = false → ∀ events login, (∀ e ∈ events, e.IsRequest) →
    u.answersTo login = true →
      (step service (run service τ (events ++ [.block login (.known false)])) (.verify token)).1 =
        (step service τ (.verify token)).1

/-- **Requests that leave the account as it is** make no difference to the verification. -/
theorem step_verify_of_requests (apart : τ.world.store.Apart) (hu : u ∈ τ.world.store.users)
    (calm : τ.world.faultIn = 0) (date : Instant.isDate τ.world.now = true) {expiry : Int}
    (expires : Expires service u.id token expiry τ.world.now) {events : List Event}
    (requests : ∀ e ∈ events, e.IsRequest)
    (stays : u ∈ (run service τ events).world.store.users) :
    (step service (run service τ events) (.verify token)).1 =
      (step service τ (.verify token)).1 := by
  have now : (run service τ events).world.now = τ.world.now := run_now_eq requests
  have quiet : (run service τ events).world.faultIn = 0 :=
    run_faultIn service (fun calls mem => requests _ mem) calm
  rw [step_verify (run_apart service apart events) stays (quiet ▸ Nat.zero_ne_one)
      (now.symm ▸ date) (now.symm ▸ expires),
    step_verify apart hu (calm ▸ Nat.zero_ne_one) date expires, now]

/-- A token is honoured as long as nothing but its expiry and the account's flag matters. -/
theorem honours_of_expires (apart : τ.world.store.Apart) (hu : u ∈ τ.world.store.users)
    (calm : τ.world.faultIn = 0) (date : Instant.isDate τ.world.now = true) {expiry : Int}
    (expires : Expires service u.id token expiry τ.world.now) :
    Honours service τ u token expiry := by
  have verdict := step_verify apart hu (calm ▸ Nat.zero_ne_one) date expires
  constructor
  · intro shown
    rw [verdict, if_pos shown]
  · intro good blocked
    rw [verdict, if_neg (Int.not_le.mpr good), if_pos blocked]
  · intro good free
    rw [verdict, if_neg (Int.not_le.mpr good), free]
    rfl
  · exact Instant.le_clockSecond date
  · rintro (left | ⟨left, near⟩)
    · exact Instant.clockSecond_lt date left
    · rw [Instant.clockSecond_eq_second date near]
      exact Int.ediv_lt_of_lt_mul (by decide) left
  · intro events spares
    exact step_verify_of_requests apart hu calm date expires
      (fun e mem => (spares e mem).isRequest) (mem_users_run apart hu spares)
  · intro free events login requests answers
    have quiet : (run service τ events).world.faultIn = 0 :=
      run_faultIn service (fun calls mem => requests _ mem) calm
    refine step_verify_of_requests apart hu calm date expires
      (List.forall_mem_append.mpr ⟨requests, List.forall_mem_singleton.mpr trivial⟩) ?_
    obtain ⟨blocked, stays⟩ : ∃ blocked, { u with isBlocked := blocked } ∈
        (run service τ events).world.store.users := user_stays hu events
    have lifted : { u with isBlocked := false } ∈
        (step service (run service τ events) (.block login (.known false))).2.world.store.users :=
      mem_users_step_block (run_apart service apart events) stays quiet answers false
    have row : { u with isBlocked := false } = u := by rw [← free]
    rw [row] at lifted
    rwa [run_concat]

/-- **A token handed out expires when its lifetime is over**, counted from the second in which it
has been handed out. -/
theorem expires_of_granted {config : Config} {hashMethod decoyPassword : String} {supply : Supply}
    (made : Service.make config hashMethod decoyPassword supply = .ok service)
    (named : config.tokens.issuer ≠ some "") (keyed : σ.world.store.Keyed)
    (granted : Grants service σ e user token) :
    Expires service user token (Instant.second σ.world.now + config.tokens.accessTtlSeconds)
      σ.world.now := by
  have does := Service.madeFor_of_make made
  obtain ⟨expiry, within, verified⟩ :=
    Signer.verify_of_issue (does.issuer_eq ▸ named) (issue_of_granted keyed granted)
  have second : Instant.second expiry =
      Instant.second σ.world.now + config.tokens.accessTtlSeconds := by
    rw [(Instant.plus?_eq_some within).2.2, does.lifetime_eq]
    exact Int.add_mul_ediv_right σ.world.now _ (by decide)
  rw [second] at verified
  exact verified

/-- **An access token is good for its user until it expires.** -/
theorem honours_of_granted {config : Config} {hashMethod decoyPassword : String} {supply : Supply}
    (made : Service.make config hashMethod decoyPassword supply = .ok service)
    (named : config.tokens.issuer ≠ some "") {now : Instant} {threshold : Log.Level}
    (past : List Event)
    (granted : Grants service (run service (start now threshold) past) e user token)
    (rest : List Event) (later : run service (start now threshold) (past ++ e :: rest) = τ)
    (date : Instant.isDate τ.world.now = true) (calm : τ.world.faultIn = 0) :
    ∃ u, τ.world.store.user? user = some u ∧ Honours service τ u token
      (Instant.second (run service (start now threshold) past).world.now +
        config.tokens.accessTtlSeconds) := by
  have apart := run_apart service (start_apart now threshold) (past ++ e :: rest)
  have passed := (run_le service (run service (start now threshold) past) (e :: rest)).1
  have expires :=
    expires_of_granted made named (run_keyed service (start_keyed now threshold) past) granted
  obtain ⟨v, hv, rfl⟩ := exists_user_of_granted (sound_of_run service now threshold past) granted
  obtain ⟨blocked, hu⟩ : ∃ blocked, { v with isBlocked := blocked } ∈
      (run service (run service (start now threshold) past) (e :: rest)).world.store.users :=
    user_stays hv (e :: rest)
  rw [← run_append, later] at passed hu
  rw [later] at apart
  have found := apart.user?_eq_some hu
  refine ⟨_, found, honours_of_expires apart hu calm date ?_⟩
  exact fun t le => expires t (passed.trans le)

/-! ## Two runs of a service with the settings that are in force if nothing is set -/

/-- The settings that are in force if nothing is set. -/
def plainConfig : Config where
  appEnv := "development"
  debugLogging := false
  logLevel := "INFO"
  database :=
    { url := "sqlite:///sessionauth.db", poolSize := 10, maxOverflow := 5
      poolTimeout := .ofInt 30, statementTimeoutMs := 5000 }
  tokens :=
    { secret := "dev", algorithm := "HS256", issuer := none, accessTtlSeconds := 900
      sessionTtlDays := 15 }
  security :=
    { cookieSecure := false, cookieSamesite := "Strict", refreshCookieName := "refresh_token"
      refreshCookiePath := "/api/v1/auth", allowedOrigins := ["*"] }

/-- The service made for them. -/
def plain : Service :=
  { sample 900 with
    decoyHash := "pbkdf2:sha256:1$s$" ++
      "6c31192691f8b23e75dbf376686d63373b0f8fd48a39b967387ad483bd743345" }

set_option maxRecDepth 100000 in
theorem hash_decoy : Password.hash "pbkdf2:sha256:1" "decoy" "s" = .ok plain.decoyHash := by
  decide +kernel

theorem make_plain :
    Service.make plainConfig "pbkdf2:sha256:1" "decoy" (sample 900).supply = .ok plain :=
  Service.make_eq_ok_iff.mpr
    ⟨plain.signer, plain.sessionSpan, plain.decoyHash, rfl, rfl, hash_decoy, rfl⟩

/-- The registration. -/
def registering : Event := opening[0]

/-- The login after it. -/
def loggingIn : Event := opening[1]

/-- A registration takes no time. -/
theorem now_registered (now : Instant) :
    (run plain (start now .info) [registering]).world.now = now :=
  run_now_eq (List.forall_mem_singleton.mpr trivial)

set_option maxRecDepth 100000 in
/-- The login hands out an access token. -/
theorem exists_admission {now : Instant} (date : now = 0 ∨ now = 221845392000000000) :
    ∃ a, (step plain (run plain (start now .info) [registering]) loggingIn).1 =
      .ok (.admitted a) := by
  have succeeds : (step plain (run plain (start now .info) [registering]) loggingIn).1.isOk := by
    obtain rfl | rfl := date <;> decide +kernel
  cases answer : (step plain (run plain (start now .info) [registering]) loggingIn).1 with
  | error e => exact nomatch answer ▸ succeeds
  | ok a =>
    cases reply_of_ok answer with
    | admitted => exact ⟨_, rfl⟩

/-- The account is blocked after the login. -/
def barred : State :=
  run plain (start 0 .info)
    ([registering] ++ loggingIn :: [.block "alice" (.known true), .advance 5])

set_option maxRecDepth 100000 in
theorem barred_isBlocked : barred.world.store.users.map (·.isBlocked) = [true] ∧
    barred.world.faultIn = 0 ∧ barred.world.now = 5 := by
  decide +kernel

/-- The access token of the login is refused for the block, and good as long as there is none. -/
theorem barred_honours :
    Service.make plainConfig "pbkdf2:sha256:1" "decoy" (sample 900).supply = .ok plain ∧
    plainConfig.tokens.issuer ≠ some "" ∧ Instant.isDate barred.world.now = true ∧
    barred.world.faultIn = 0 ∧ ∃ (a : Admission) (u : User),
      Grants plain (run plain (start 0 .info) [registering]) loggingIn a.user a.accessToken ∧
      barred.world.store.user? a.user = some u ∧ Honours plain barred u a.accessToken 900 ∧
      (step plain barred (.verify a.accessToken)).1 = .error (.denied .userBlocked) := by
  obtain ⟨flags, calm, now⟩ := barred_isBlocked
  have date : Instant.isDate barred.world.now = true := now ▸ by decide
  obtain ⟨a, answer⟩ := exists_admission (.inl rfl)
  have granted := Grants.admitted a answer
  obtain ⟨u, found, honours⟩ := honours_of_granted make_plain (by decide) [registering] granted
    [.block "alice" (.known true), .advance 5] (τ := barred) rfl date calm
  have expiry : Instant.second 0 + plainConfig.tokens.accessTtlSeconds = 900 := by decide
  rw [now_registered, expiry] at honours
  refine ⟨make_plain, by decide, date, calm, a, u, granted, found, honours, ?_⟩
  have flag := List.mem_map_of_mem (f := (·.isBlocked)) (Store.user?_eq_some found).1
  rw [flags] at flag
  exact honours.blocked (now ▸ by decide +kernel) (List.mem_singleton.mp flag)

/-- In the year 9000, ten microseconds are left until the access token of a login expires. -/
def coarse : State :=
  run plain (start 221845392000000000 .info) ([registering] ++ loggingIn :: [.advance 899999990])

set_option maxRecDepth 100000 in
theorem coarse_isBlocked : coarse.world.store.users.map (·.isBlocked) = [false] ∧
    coarse.world.faultIn = 0 ∧ coarse.world.now = 221845392899999990 := by
  decide +kernel

/-- **The clock of tokens is early**: the account is not blocked, the token is good for 900 seconds
from the login on, these are not over, and still it is refused as expired. -/
theorem coarse_expired :
    Service.make plainConfig "pbkdf2:sha256:1" "decoy" (sample 900).supply = .ok plain ∧
    coarse.world.now < (Instant.second 221845392000000000 + 900) * Instant.perSecond ∧
    coarse.world.store.users.map (·.isBlocked) = [false] ∧ ∃ a,
      (step plain (run plain (start 221845392000000000 .info) [registering]) loggingIn).1 =
        .ok (.admitted a) ∧
      (step plain coarse (.verify a.accessToken)).1 = .error (.denied .tokenExpired) := by
  obtain ⟨flags, calm, now⟩ := coarse_isBlocked
  obtain ⟨a, answer⟩ := exists_admission (.inr rfl)
  refine ⟨make_plain, now ▸ by decide, flags, a, answer, ?_⟩
  have keyed := run_keyed plain (start_keyed 221845392000000000 .info) [registering]
  have expires := expires_of_granted make_plain (by decide) keyed (.admitted a answer)
  rw [now_registered] at expires
  have passed : 221845392000000000 ≤ coarse.world.now := by
    rw [now]
    decide
  have date : Instant.isDate coarse.world.now = true := by
    rw [now]
    decide
  have shown : Instant.second 221845392000000000 + 900 ≤ Instant.clockSecond coarse.world.now := by
    rw [now]
    decide +kernel
  have refused : plain.signer.verify a.accessToken coarse.world.now =
      .error (.denied .tokenExpired) := by
    rw [expires coarse.world.now passed date]
    exact if_pos shown
  have answered : (step plain coarse (.verify a.accessToken)).1 =
    (plain.verify a.accessToken coarse.world).1.map .verified := rfl
  rw [answered, Service.verify_fst _ (by omega), refused]
  rfl

end Run
end LoginGate
