import LoginGate.Proofs.Password
import LoginGate.Proofs.Run.Accounts
import LoginGate.Proofs.Signing

/-!
# Proofs/Run/Credentials — what has been registered goes on working

A registration stores its names and a hash of its password in one row, and from then on the row is
the only one that answers to either name. Whatever comes later, a login by one of the names is a
login of that account, and with the password nothing stands in its way that has to do with the
account (`LoginBar`): not a block, not a revocation, and not whoever else has registered.
-/

namespace LoginGate.Run

variable {service : Service} {σ : State}

/-! ## The account of a registration -/

/-- **The account that a registration with these arguments sets up.** -/
structure Enrolled (service : Service) (username email password : Argument) (u : User) : Prop where
  username_eq : username = .text u.username
  email_eq : email = .text u.email
  hashed : ∃ secret n, password = .text secret ∧
    Password.hash service.hashMethod secret (service.supply.salt n) = .ok u.passwordHash

/-- A registration that returns has set up its account. -/
theorem enrolled_of_registered {username email password : Argument} {id : Uuid}
    (h : (step service σ (.register username email password)).1 = .ok (.registered id)) :
    ∃ u ∈ (step service σ (.register username email password)).2.world.store.users,
      u.id = id ∧ Enrolled service username email password u := by
  cases reply_of_ok h with
  | registered ok =>
    have ends := Service.registerEnd service username email password σ.world
    change ∃ u ∈ (service.registerWith username email password σ.world).2.store.users, _
    generalize service.registerWith username email password σ.world = p at ends ok ⊢
    cases ends with
    | refused => exact nomatch ok
    | registered u secret n username_eq email_eq password_eq hashed _ _ _ _ _ after =>
      obtain rfl := Except.ok.inj ok
      refine ⟨u, ?_, rfl, username_eq, email_eq, secret, n, password_eq, hashed⟩
      rw [after.store_eq]
      exact List.mem_append_right _ (List.mem_singleton_self _)

/-- The flag of an account has no part in what a registration has set up. -/
theorem Enrolled.flagged {username email password : Argument} {u : User}
    (h : Enrolled service username email password u) (blocked : Bool) :
    Enrolled service username email password { u with isBlocked := blocked } :=
  ⟨h.username_eq, h.email_eq, h.hashed⟩

/-- **The account of a registration is there wherever the run leads from then on.** -/
theorem enrolled_of_run {username email password : Argument} {id : Uuid}
    (h : (step service σ (.register username email password)).1 = .ok (.registered id))
    (rest : List Event) :
    ∃ u ∈ (run service σ (.register username email password :: rest)).world.store.users,
      u.id = id ∧ Enrolled service username email password u := by
  obtain ⟨u, hu, rfl, enrolled⟩ := enrolled_of_registered h
  obtain ⟨blocked, hu⟩ := user_stays hu rest
  exact ⟨_, hu, rfl, enrolled.flagged blocked⟩

/-- The account is the one found by either of its names. -/
theorem Enrolled.known {username email password login : Argument} {u : User}
    (h : Enrolled service username email password u) (apart : σ.world.store.Apart)
    (hu : u ∈ σ.world.store.users) (named : login = username ∨ login = email) :
    login.text?.bind σ.world.store.userByLogin? = some u := by
  obtain rfl | rfl := named
  · rw [h.username_eq, Argument.text?_text, Option.bind_some, apart.userByLogin?_eq_some_iff]
    exact ⟨hu, Store.answersTo_iff.mpr (.inl rfl)⟩
  · rw [h.email_eq, Argument.text?_text, Option.bind_some, apart.userByLogin?_eq_some_iff]
    exact ⟨hu, Store.answersTo_iff.mpr (.inr rfl)⟩

/-- The password fits the hash that the account keeps, as long as no salt has a `$` in it. -/
theorem Enrolled.fits {username email password : Argument} {u : User}
    (h : Enrolled service username email password u)
    (salts : ∀ n, '$' ∉ (service.supply.salt n).toList) :
    Service.fits password u.passwordHash = .ok true := by
  obtain ⟨secret, n, rfl, hashed⟩ := h.hashed
  rw [Service.fits, Password.verify_hash hashed (salts n)]
  rfl

/-! ## Logins of the account -/

/-- **A login by the name of an account is a login of that account**, whatever the password. -/
theorem owner_of_admitted {login password userAgent clientIp : Argument} {u : User} {a : Admission}
    (known : login.text?.bind σ.world.store.userByLogin? = some u)
    (h : (step service σ (.login login password userAgent clientIp)).1 = .ok (.admitted a)) :
    a.user = u.id := by
  obtain ⟨name, secret, agent, ip, same, ends⟩ := loginEnd_of_admitted h
  obtain ⟨rfl, rfl, rfl, rfl⟩ := Event.login.inj same
  cases ends with
  | admitted v _ _ _ found => rw [Option.some.inj (found.symm.trans known)]

/-- **What a login needs besides the credentials**: the storage answers, access tokens can be
signed, there are dates for the token and the session to expire at, and what is drawn for the
session has not been drawn before. -/
structure Admits (service : Service) (w : World) : Prop where
  known : w.faultIn ≠ 1
  stored : w.faultIn ≠ 2
  canSign : service.signer.CanSign
  tokenExpiry : (Instant.plus? w.now service.signer.lifetime).isSome
  sessionExpiry : (Instant.plus? w.now service.sessionSpan).isSome
  fresh : service.supply.Unrepeated w.withId.withToken

/-- What is drawn next is held by no session. -/
theorem hasSession_next {w : World} {s : Session} (covers : service.supply.Covers w)
    (fresh : service.supply.Unrepeated w.withId.withToken)
    (id : s.id = service.supply.id (w.ids + 1))
    (token : s.refreshToken = service.supply.token (w.tokens + 1)) :
    w.store.hasSession s = false := by
  have newId := fresh.next_id_notMem (w := w) (Nat.lt_succ_self w.ids)
  have newToken := covers.next_token_notMem fresh (Nat.lt_succ_self w.tokens)
  refine Bool.eq_false_iff.mpr fun held => ?_
  obtain ⟨t, ht, same⟩ := List.any_eq_true.mp held
  simp only [Bool.or_eq_true, beq_iff_eq] at same
  obtain same | same := same
  · exact newId (id ▸ same ▸ covers.ids t ht)
  · exact newToken (Store.mem_refreshTokens.mpr ⟨t, ht, same.trans token⟩)

/-- **Nothing stands in the way of a login with the right credentials** if the service admits
anyone. -/
theorem admitted_of_fits {login password : Argument} {u : User}
    (covers : service.supply.Covers σ.world) (admits : Admits service σ.world)
    (known : login.text?.bind σ.world.store.userByLogin? = some u)
    (fit : Service.fits password u.passwordHash = .ok true) (agent : String) (ip : Option String) :
    ∃ a, (step service σ (.login login password (.text agent) (.ofOption ip))).1 =
      .ok (.admitted a) := by
  have answer : (step service σ (.login login password (.text agent) (.ofOption ip))).1 =
    (service.loginWith login password (.text agent) (.ofOption ip) σ.world).1.map .admitted := rfl
  rw [answer]
  have ends := Service.loginEnd service login password (.text agent) (.ofOption ip) σ.world
  generalize service.loginWith login password (.text agent) (.ofOption ip) σ.world = p at ends ⊢
  cases ends with
  | admitted => exact ⟨_, rfl⟩
  | refused bar =>
    exfalso
    cases bar with
    | unanswered fault => exact fault.elim admits.known admits.stored
    | unknown nobody => exact nomatch nobody.symm.trans known
    | unfit v found unfit =>
      obtain rfl := Option.some.inj (found.symm.trans known)
      exact unfit fit
    | unissued v e issue =>
      obtain ⟨expiry, within⟩ := Option.isSome_iff_exists.mp admits.tokenExpiry
      obtain ⟨accessToken, issued⟩ := admits.canSign.issue within v.id
      exact nomatch issue.symm.trans issued
    | overlong beyond => exact nomatch beyond ▸ admits.sessionExpiry
    | unmeasured untold =>
      obtain ⟨e, told⟩ | ⟨e, address⟩ := untold
      · exact nomatch told
      · cases ip <;> exact nomatch address
    | held s id token held =>
      exact nomatch held.symm.trans (hasSession_next covers admits.fresh id token)

/-! ## From the registration on -/

/-- **Whatever comes after a registration, its account is the one found by either of its names.** -/
theorem known_of_registered {now : Instant} {threshold : Log.Level} {past : List Event}
    {username email password : Argument} {id : Uuid}
    (registered : (step service (run service (start now threshold) past)
      (.register username email password)).1 = .ok (.registered id))
    {rest : List Event} {τ : State}
    (later : run service (start now threshold)
      (past ++ .register username email password :: rest) = τ)
    {login : Argument} (named : login = username ∨ login = email) :
    ∃ u ∈ τ.world.store.users, u.id = id ∧ Enrolled service username email password u ∧
      login.text?.bind τ.world.store.userByLogin? = some u := by
  have apart : τ.world.store.Apart := later ▸ run_apart service (start_apart now threshold) _
  rw [run_append] at later
  obtain ⟨u, hu, same, enrolled⟩ := enrolled_of_run registered rest
  rw [later] at hu
  exact ⟨u, hu, same, enrolled, enrolled.known apart hu named⟩

/-- **Registered credentials go on working.** At every state after a registration has returned, a
login by either name that succeeds is one of its account, and with its password it does succeed. -/
theorem credentials_last {now : Instant} {threshold : Log.Level} (past : List Event)
    {username email password : Argument} {id : Uuid}
    (registered : (step service (run service (start now threshold) past)
      (.register username email password)).1 = .ok (.registered id))
    (rest : List Event) {τ : State}
    (later : run service (start now threshold)
      (past ++ .register username email password :: rest) = τ)
    {login : Argument} (named : login = username ∨ login = email) :
    (∀ q userAgent clientIp a, (step service τ (.login login q userAgent clientIp)).1 =
      .ok (.admitted a) → a.user = id) ∧
    ((∀ n, '$' ∉ (service.supply.salt n).toList) → Admits service τ.world →
      ∀ agent ip, ∃ a, (step service τ (.login login password (.text agent) (.ofOption ip))).1 =
        .ok (.admitted a) ∧ a.user = id) := by
  obtain ⟨u, -, rfl, enrolled, known⟩ := known_of_registered registered later named
  have covers : service.supply.Covers τ.world :=
    later ▸ run_covers (start_covers service now threshold) _
  refine ⟨fun q userAgent clientIp a => owner_of_admitted known, fun salts admits agent ip => ?_⟩
  obtain ⟨a, admitted⟩ := admitted_of_fits covers admits known (enrolled.fits salts) agent ip
  exact ⟨a, admitted, owner_of_admitted known admitted⟩

/-- After the registration and a login, someone else tries to register under the email as username,
and the account is blocked and logged out everywhere. -/
def contest : List Event :=
  [.login (.text "alice") (.text "Passw0rd!") (.text "agent") .nothing,
    .register (.text "alice@example.com") (.text "mallory@example.com") (.text "Passw0rd?"),
    .block "alice" (.known true), .logoutAll (Uuid.ofNat 1), .advance 5]

/-- The run of them all. -/
def contested : State :=
  run (sample 900) (start 0 .info) ([] ++ .register (.text "alice") (.text "alice@example.com")
    (.text "Passw0rd!") :: contest)

set_option maxRecDepth 100000 in
/-- There is one account, which is blocked, and no session is left. -/
theorem contested_blocked : contested.sessions = [] ∧
    contested.world.store.users.map (·.isBlocked) = [true] ∧ contested.world.ids = 3 ∧
    contested.world.faultIn = 0 ∧ contested.world.now = 5 := by
  decide +kernel

theorem sample_canSign : (sample 900).signer.CanSign := by
  have fit : ((sample 900).signer.signature []).isOk = true := by decide +kernel
  cases signed : (sample 900).signer.signature [] with
  | error e => exact nomatch signed ▸ fit
  | ok bytes => exact Signer.canSign_of_signature signed

set_option maxRecDepth 100000 in
/-- Still the email and the password admit the owner of the account. -/
theorem contested_admitted :
    (step (sample 900) (run (sample 900) (start 0 .info) []) (.register (.text "alice")
      (.text "alice@example.com") (.text "Passw0rd!"))).1 = .ok (.registered (Uuid.ofNat 1)) ∧
    (∀ n, '$' ∉ ((sample 900).supply.salt n).toList) ∧ Admits (sample 900) contested.world ∧
    ∃ a, (step (sample 900) contested (.login (.text "alice@example.com") (.text "Passw0rd!")
      (.text "agent") .nothing)).1 = .ok (.admitted a) ∧ a.user = Uuid.ofNat 1 := by
  obtain ⟨-, -, ids, calm, now⟩ := contested_blocked
  have registered : (step (sample 900) (run (sample 900) (start 0 .info) [])
    (.register (.text "alice") (.text "alice@example.com") (.text "Passw0rd!"))).1 =
      .ok (.registered (Uuid.ofNat 1)) := rfl
  have salts := sample_salts 900
  have admits : Admits (sample 900) contested.world :=
    { known := calm ▸ by decide
      stored := calm ▸ by decide
      canSign := sample_canSign
      tokenExpiry := now ▸ by decide
      sessionExpiry := now ▸ by decide
      fresh := sample_unrepeated 900 (show contested.world.ids + 1 < _ from ids ▸ by decide) }
  have later : run (sample 900) (start 0 .info) ([] ++ .register (.text "alice")
    (.text "alice@example.com") (.text "Passw0rd!") :: contest) = contested := rfl
  have lasting := credentials_last [] registered contest later (.inr rfl)
  exact ⟨registered, salts, admits, lasting.2 salts admits "agent" none⟩

end LoginGate.Run
