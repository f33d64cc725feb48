import LoginGate.Proofs.Except
import LoginGate.Proofs.Storage
import LoginGate.Proofs.Tables
import LoginGate.Service.Block
import LoginGate.Service.Login
import LoginGate.Service.Logout
import LoginGate.Service.Register
import LoginGate.Service.Verify

/-!
# Proofs/Endings — how requests on accounts can end

A login ends with a session on the account that answers to the name and whose stored hash the
password fits, or else something stands in its way (`LoginBar`); then it leaves the tables alone.
A registration that returns has added an account with the names given and a hash of the password
(`RegisterEnd`), a log-out that returns has deleted what it names (`LogoutEnd`), and a blocking that
returns has set the flag of the account named (`BlockEnd`). A verification changes nothing; one that
returns has found the user of the token, who is not blocked (`VerifyEnd`).
-/

namespace LoginGate.Service

variable {service : Service} {w : World}

/-! ## Checking a password -/

/-- Whether a password fits a stored hash. -/
def fits (password : Argument) (hash : String) : Except Failure Bool :=
  match password with
  | .text password => (Password.verify password hash).mapError .password
  | _ => if (Password.parts? hash.toList).isSome then .error .notEncodable else .ok false

theorem checkPassword_apply (password : Argument) (hash : String) :
    checkPassword password hash w = (fits password hash, w) := by
  unfold checkPassword fits
  cases password with
  | text => rfl
  | nothing | unfit =>
    simp only
    split <;> rfl

/-! ## Logging in -/

/-- **What can stand in the way of a login.** -/
inductive LoginBar (service : Service) (login password userAgent clientIp : Argument) (w : World) :
    Prop where
  /-- The storage does not answer one of the two calls. -/
  | unanswered (fault : w.faultIn = 1 ∨ w.faultIn = 2)
  | unknown (nobody : login.text?.bind w.store.userByLogin? = none)
  | unfit (u : User) (known : login.text?.bind w.store.userByLogin? = some u)
    (unfit : fits password u.passwordHash ≠ .ok true)
  /-- No access token can be made. -/
  | unissued (u : User) (e : Failure) (issue : service.signer.issue u.id w.now = .error e)
  /-- The session would outlast all dates. -/
  | overlong (beyond : Instant.plus? w.now service.sessionSpan = none)
  /-- What is told of the device is no text. -/
  | unmeasured (untold : (∃ e, userAgent.measured = .error e) ∨ ∃ e, clientIp.measured? = .error e)
  /-- The identifier or the refresh token drawn is that of another session. -/
  | held (s : Session) (id : s.id = service.supply.id (w.ids + 1))
    (token : s.refreshToken = service.supply.token (w.tokens + 1))
    (held : w.store.hasSession s = true)

/-- The session that a login opens on an account now. -/
def opening (service : Service) (user : Uuid) (w : World) (expires : Instant) (agent : String)
    (ip : Option String) : Session where
  id := service.supply.id (w.ids + 1)
  owner := user
  refreshToken := service.supply.token (w.tokens + 1)
  created := w.now
  expires := expires
  userAgent := Session.clamp Session.userAgentWidth agent
  clientIp := ip.map (Session.clamp Session.clientIpWidth)

/-- **How a login can end.** -/
inductive LoginEnd (service : Service) (login password userAgent clientIp : Argument) (w : World) :
    Except Failure Admission × World → Prop where
  | refused {e w'} (bar : LoginBar service login password userAgent clientIp w)
    (after : w.Quiet w' ∨ w.withId.withToken.Quiet w') :
    LoginEnd service login password userAgent clientIp w (.error e, w')
  | admitted {w' accessToken} (u : User) (expires : Instant) (agent : String) (ip : Option String)
    (known : login.text?.bind w.store.userByLogin? = some u)
    (fit : fits password u.passwordHash = .ok true)
    (issued : service.signer.issue u.id w.now = .ok accessToken)
    (within : Instant.plus? w.now service.sessionSpan = some expires)
    (told : userAgent.measured = .ok agent) (address : clientIp.measured? = .ok ip)
    (unique : w.store.hasSession (service.opening u.id w expires agent ip) = false)
    (after : w.withId.withToken.Yields
      (w.store.addSession (service.opening u.id w expires agent ip)) w') :
    LoginEnd service login password userAgent clientIp w
      (.ok ⟨u.id, accessToken, service.supply.token (w.tokens + 1), service.supply.id (w.ids + 1)⟩,
        w')

/-- The account of a login is looked up: the storage answers or does not, and the account is there
or is not, in which case a password is checked all the same. -/
theorem knownUser_induct {login password : Argument}
    {P : Except Failure (Uuid × String) × World → Prop}
    (fault : ∀ e w', w.faultIn = 1 → w.Quiet w' → P (.error e, w'))
    (unknown : ∀ e w', login.text?.bind w.store.userByLogin? = none → w.Quiet w' → P (.error e, w'))
    (known : ∀ u w', login.text?.bind w.store.userByLogin? = some u → w.Quiet w' →
      w'.faultIn = w.faultIn - 1 → P (.ok (u.id, u.passwordHash), w')) :
    P (service.knownUser login password w) := by
  unfold knownUser
  rw [Act.orElse_eq_recover]
  refine Store.accountOf_induct (P := fun p => P (Act.recover _ p)) ?_ ?_ ?_
  · exact fun w' hf hw => fault _ w' hf hw
  · intro w' _ nobody hw
    rw [Act.recover_error]
    simp only
    rw [Act.bind_eq_resume, checkPassword_apply]
    cases fits password service.decoyHash with
    | error e => exact unknown e w' nobody hw
    | ok _ => exact unknown _ _ nobody (hw.quiet (World.quiet_log _ _ _))
  · exact fun u w' _ hu hw hf => known u w' hu hw hf

/-- **The second half of a login**, once the password fits: an access token is made, and a session
is opened. -/
def admission (service : Service) (user : Uuid) (userAgent clientIp : Argument) :
    Act Admission := do
  let accessToken ← service.issue user
  let now ← Act.clock
  let id ← Act.drawId service.supply
  let refreshToken ← Act.drawToken service.supply
  let expires ← Act.later now service.sessionSpan
  let userAgent ← Act.ofExcept userAgent.measured
  let clientIp ← Act.ofExcept clientIp.measured?
  Store.storeSession user
    { id, owner := user, refreshToken, created := now, expires
      userAgent := Session.clamp Session.userAgentWidth userAgent
      clientIp := clientIp.map (Session.clamp Session.clientIpWidth) }
  Act.log .info ("auth.login: ok user_id=" ++ user.text ++ " session_id=" ++ id.text)
  return { user, accessToken, refreshToken, session := id }

/-- **A login is its two halves**: the credentials are checked, and then the user is admitted. -/
theorem loginWith_eq_bind (service : Service) (login password userAgent clientIp : Argument) :
    service.loginWith login password userAgent clientIp = (do
      let (user, hash) ← service.knownUser login password
      if !(← checkPassword password hash) then
        Act.log .info ("auth.login: rejected, bad password for user_id=" ++ user.text)
        Act.fail (.denied .invalidCredentials)
      else service.admission user userAgent clientIp) :=
  rfl

/-- With the right credentials, a login ends in one of these ways. -/
theorem loginEnd_of_fits {login password userAgent clientIp : Argument} {u : User} {w₁ : World}
    (known : login.text?.bind w.store.userByLogin? = some u)
    (fit : fits password u.passwordHash = .ok true) (hw : w.Quiet w₁)
    (fault : w₁.faultIn = w.faultIn - 1) :
    LoginEnd service login password userAgent clientIp w
      (service.admission u.id userAgent clientIp w₁) := by
  unfold admission issue
  rw [Act.bind_eq_resume, Act.atNow_apply, hw.now_eq]
  cases issued : service.signer.issue u.id w.now with
  | error e => exact .refused (.unissued u e issued) (.inl hw)
  | ok accessToken =>
  rw [Act.resume_ok, Act.bind_eq_resume, Act.clock_apply, hw.now_eq]
  cases date : Instant.isDate w.now with
  | false =>
    refine .refused (.overlong ?_) (.inl hw)
    simp [Instant.plus?, date]
  | true =>
  simp only [if_true, Act.resume_ok]
  rw [Act.bind_eq_resume, Act.drawId_apply, Act.resume_ok, Act.bind_eq_resume,
    Act.drawToken_apply, Act.resume_ok, Act.bind_eq_resume, Act.later_apply]
  have drawn : w.withId.withToken.Quiet w₁.withId.withToken := hw.withId.withToken
  cases within : Instant.plus? w.now service.sessionSpan with
  | none => exact .refused (.overlong within) (.inr drawn)
  | some expires =>
  simp only [Act.resume_ok]
  rw [Act.bind_eq_resume, Act.ofExcept_apply]
  cases told : userAgent.measured with
  | error e => exact .refused (.unmeasured (.inl ⟨e, told⟩)) (.inr drawn)
  | ok agent =>
  rw [Act.resume_ok, Act.bind_eq_resume, Act.ofExcept_apply]
  cases address : clientIp.measured? with
  | error e => exact .refused (.unmeasured (.inr ⟨e, address⟩)) (.inr drawn)
  | ok ip =>
  have same : w₁.withId.withToken.store = w.store := hw.store_eq
  have tokens : w₁.withId.tokens = w.tokens := hw.tokens_eq
  rw [Act.resume_ok, Act.bind_eq_resume, hw.ids_eq, tokens]
  refine Store.storeSession_induct
    (P := fun p => LoginEnd service login password userAgent clientIp w (Act.resume _ p)) ?_ ?_ ?_
  · intro w' second hw'
    have second : w₁.faultIn = 1 := second
    exact .refused (.unanswered (.inr (by omega))) (.inr (drawn.quiet hw'))
  · intro w' held hw'
    rw [same] at held
    exact .refused (.held _ rfl rfl held) (.inr (drawn.quiet hw'))
  · intro w' unique hw'
    rw [same] at unique hw'
    exact .admitted u expires agent ip known fit issued within told address unique
      ((drawn.trans hw').quiet (World.quiet_log _ _ _))

/-- **A login ends in one of these ways.** -/
theorem loginEnd (service : Service) (login password userAgent clientIp : Argument) (w : World) :
    LoginEnd service login password userAgent clientIp w
      (service.loginWith login password userAgent clientIp w) := by
  rw [loginWith_eq_bind, Act.bind_eq_resume]
  refine knownUser_induct (P := fun p => LoginEnd service login password userAgent clientIp w
    (Act.resume _ p)) ?_ ?_ ?_
  · exact fun e w' hf hw => .refused (.unanswered (.inl hf)) (.inl hw)
  · exact fun e w' nobody hw => .refused (.unknown nobody) (.inl hw)
  intro u w₁ known hw fault
  simp only [Act.resume_ok]
  rw [Act.bind_eq_resume, checkPassword_apply]
  cases fit : fits password u.passwordHash with
  | error e => exact .refused (.unfit u known (fit ▸ nofun)) (.inl hw)
  | ok fitting =>
    cases fitting with
    | false =>
      exact .refused (.unfit u known (fit ▸ nofun)) (.inl (hw.quiet (World.quiet_log _ _ _)))
    | true => exact loginEnd_of_fits known fit hw fault

/-- What a login hands out is stored. -/
theorem LoginEnd.stored {login password userAgent clientIp : Argument} {a : Admission} {w' : World}
    (h : LoginEnd service login password userAgent clientIp w (.ok a, w')) :
    ∃ s ∈ w'.store.sessions, s.id = a.session ∧ s.owner = a.user ∧
      s.refreshToken = a.refreshToken := by
  cases h with
  | admitted u expires agent ip known fit issued within told address unique after =>
    refine ⟨service.opening u.id w expires agent ip, ?_, rfl, rfl, rfl⟩
    rw [after.store_eq]
    exact List.mem_append_right _ (List.mem_singleton_self _)

/-! ## Registering -/

/-- **How a registration can end.** -/
inductive RegisterEnd (service : Service) (username email password : Argument) (w : World) :
    Except Failure Uuid × World → Prop where
  | refused {e w'} (after : w.Quiet w' ∨ w.withId.Quiet w') :
    RegisterEnd service username email password w (.error e, w')
  | registered {w'} (u : User) (secret : String) (n : Nat)
    (username_eq : username = .text u.username) (email_eq : email = .text u.email)
    (password_eq : password = .text secret)
    (hashed : Password.hash service.hashMethod secret (service.supply.salt n) = .ok u.passwordHash)
    (id : u.id = service.supply.id (w.ids + 1)) (created : u.created = w.now)
    (unblocked : u.isBlocked = false) (uncrossed : w.store.hasCrossedName u = false)
    (unique : w.store.hasSameColumn u = false)
    (after : w.withId.Yields (w.store.addUser u) w') :
    RegisterEnd service username email password w (.ok u.id, w')

/-- An argument that breaks no rule is a text. -/
theorem eq_text_of_judged {broken : String → Option Registration.Rule} {argument : Argument}
    {s : String} (h : judged broken argument = .ok s) : argument = .text s := by
  cases argument with
  | text t =>
    obtain ⟨_, measured, passed⟩ := bind_eq_ok.mp h
    obtain rfl := Except.ok.inj measured
    split at passed
    · exact nomatch passed
    · rw [Except.ok.inj passed]
  | nothing | unfit => exact nomatch h

/-- Arguments that break no rule are the texts of a registration. -/
theorem eq_text_of_registrationTexts {username email password : Argument}
    {texts : String × String × String} (h : registrationTexts username email password = .ok texts) :
    username = .text texts.1 ∧ email = .text texts.2.1 ∧ password = .text texts.2.2 := by
  simp only [registrationTexts, bind_eq_ok] at h
  obtain ⟨_, hu, _, he, _, hp, made⟩ := h
  obtain rfl := Except.ok.inj made
  exact ⟨eq_text_of_judged hu, eq_text_of_judged he, eq_text_of_judged hp⟩

/-- **A registration ends in one of these ways.** -/
theorem registerEnd (service : Service) (username email password : Argument) (w : World) :
    RegisterEnd service username email password w
      (service.registerWith username email password w) := by
  unfold registerWith
  rw [Act.bind_eq_resume, Act.ofExcept_apply]
  cases texts : registrationTexts username email password with
  | error e => exact .refused (.inl (.refl w))
  | ok t =>
  obtain ⟨name, address, secret⟩ := t
  obtain ⟨username_eq, email_eq, password_eq⟩ := eq_text_of_registrationTexts texts
  simp only [Act.resume_ok]
  unfold enter hashPassword
  rw [Act.bind_eq_resume, Act.bind_eq_resume]
  change RegisterEnd service username email password w (Act.resume _
    ((Password.hash service.hashMethod secret (service.supply.salt (w.salts + 1))).mapError
      .password, { w with salts := w.salts + 1 }))
  have salted : w.Quiet { w with salts := w.salts + 1 } := Act.isQuiet_drawSalt service.supply w
  cases hashed : Password.hash service.hashMethod secret (service.supply.salt (w.salts + 1)) with
  | error e => exact .refused (.inl salted)
  | ok hash =>
  generalize ({ w with salts := w.salts + 1 } : World) = w₁ at salted ⊢
  have same : w₁.withId.store = w.store := salted.store_eq
  have now : w₁.withId.now = w.now := salted.now_eq
  change RegisterEnd service username email password w (Act.resume _ (.ok hash, w₁))
  rw [Act.resume_ok, Act.bind_eq_resume, Act.drawId_apply, Act.resume_ok, Act.bind_eq_resume,
    salted.ids_eq]
  refine Store.createUser_induct (P := fun p => RegisterEnd service username email password w
    (Act.resume _ p)) ?_ ?_
  · exact fun e w' hw' => .refused (.inr (salted.withId.quiet hw'))
  · intro u w' row uncrossed unique hw'
    rw [same] at uncrossed unique hw'
    rw [now] at row
    subst row
    exact .registered _ secret (w.salts + 1) username_eq email_eq password_eq hashed rfl rfl rfl
      uncrossed unique ((salted.withId.trans hw').quiet (World.quiet_log _ _ _))

/-! ## Logging out -/

/-- **How a log-out can end**, be it of one session or of all sessions of a user. -/
inductive LogoutEnd (change : Store → Store) (w : World) : Except Failure Unit × World → Prop where
  | failed {e w'} (after : w.Quiet w') : LogoutEnd change w (.error e, w')
  | ended {w'} (after : w.Yields (change w.store) w') : LogoutEnd change w (.ok (), w')

/-- What commits and is logged ends in one of these ways. -/
theorem logoutEnd_of_commit {call : Call} (change : Store → Store) {level : Log.Level}
    {message : String} (w : World) :
    LogoutEnd change w ((Store.transact call (fun w => .ok ((), change w.store)) >>=
      fun _ => Act.log level message) w) := by
  rw [Act.bind_eq_resume]
  refine Store.commit_induct change (P := fun p => LogoutEnd change w (Act.resume _ p)) ?_ ?_
  · exact fun w' _ hw => .failed hw
  · exact fun w' _ hw => .ended (hw.quiet (World.quiet_log _ _ _))

/-- **A log-out ends in one of these ways.** -/
theorem logoutEnd (user session : Uuid) (w : World) :
    LogoutEnd (·.deleteSession user session) w (logout user session w) :=
  logoutEnd_of_commit (·.deleteSession user session) w

/-- **A log-out of all sessions ends in one of these ways.** -/
theorem logoutAllEnd (user : Uuid) (w : World) :
    LogoutEnd (·.deleteSessions user) w (logoutAll user w) :=
  logoutEnd_of_commit (·.deleteSessions user) w

/-! ## Verifying an access token -/

/-- **How a verification can end.** -/
inductive VerifyEnd (service : Service) (accessToken : String) (w : World) :
    Except Failure Uuid × World → Prop where
  | refused {e w'} (after : w.Quiet w') : VerifyEnd service accessToken w (.error e, w')
  | accepted {w'} (u : User) (signed : service.signer.verify accessToken w.now = .ok u.id)
    (answers : w.faultIn ≠ 1) (known : w.store.user? u.id = some u) (free : u.isBlocked = false)
    (after : w.Quiet w') (fault : w'.faultIn = w.faultIn - 1) :
    VerifyEnd service accessToken w (.ok u.id, w')

/-- **A verification ends in one of these ways.** -/
theorem verifyEnd (service : Service) (accessToken : String) (w : World) :
    VerifyEnd service accessToken w (service.verify accessToken w) := by
  unfold verify
  rw [Act.bind_eq_resume, Act.atNow_apply]
  cases signed : service.signer.verify accessToken w.now with
  | error e => exact .refused (.refl w)
  | ok user =>
  rw [Act.resume_ok, Act.bind_eq_resume, Act.orElse_eq_recover]
  refine Store.userIsBlocked_induct (P := fun p => VerifyEnd service accessToken w
    (Act.resume _ (Act.recover _ p))) ?_ ?_ ?_
  · exact fun w' _ hw => .refused hw
  · exact fun w' _ _ hw => .refused hw
  intro u w' answers known hw fault
  obtain ⟨-, rfl⟩ := Store.user?_eq_some known
  rw [Act.recover_ok, Act.resume_ok]
  cases flag : u.isBlocked with
  | true => exact .refused (hw.quiet (World.quiet_log _ _ _))
  | false => exact .accepted u signed answers known flag hw fault

/-! ## Blocking -/

/-- **How setting the flag of an account can end.** A truth value is set unless the storage does not
answer one of the two calls. -/
inductive BlockEnd (login : String) (flag : Flag) (w : World) :
    Except Failure Bool × World → Prop where
  | failed {e w'} (why : (w.faultIn = 1 ∨ w.faultIn = 2) ∨ ∀ blocked, flag ≠ .known blocked)
    (after : w.Quiet w') : BlockEnd login flag w (.error e, w')
  | unknown {w'} (nobody : w.store.userByLogin? login = none) (after : w.Quiet w') :
    BlockEnd login flag w (.ok false, w')
  | flagged {w'} (u : User) (blocked : Bool) (truth : flag = .known blocked)
    (known : w.store.userByLogin? login = some u)
    (after : w.Yields (w.store.setBlocked u.id blocked) w') : BlockEnd login flag w (.ok true, w')

/-- An operator names an account by one of its names. -/
theorem named_induct {login : String} {P : Except Failure (Option Uuid) × World → Prop}
    (fault : ∀ e w', w.faultIn = 1 → w.Quiet w' → P (.error e, w'))
    (unknown : ∀ w', w.store.userByLogin? login = none → w.Quiet w' → P (.ok none, w'))
    (known : ∀ u w', w.store.userByLogin? login = some u → w.Quiet w' →
      w'.faultIn = w.faultIn - 1 → P (.ok (some u.id), w')) :
    P (named login w) := by
  unfold named
  rw [Act.orElse_eq_recover, Act.bind_eq_resume]
  refine Store.getUserByLogin_induct (P := fun p => P (Act.recover _ (Act.resume _ p))) ?_ ?_ ?_
  · exact fun w' => fault _ w'
  · exact fun w' _ nobody hw => unknown _ nobody (hw.quiet (World.quiet_log _ _ _))
  · exact fun u w' _ => known u w'

/-- Setting a truth value ends in one of these ways. -/
theorem blockEnd_of_known (login : String) (blocked : Bool) (w : World) :
    BlockEnd login (.known blocked) w (block login blocked w) := by
  unfold block
  rw [Act.bind_eq_resume]
  refine named_induct (P := fun p => BlockEnd login (.known blocked) w (Act.resume _ p)) ?_ ?_ ?_
  · exact fun e w' hf hw => .failed (.inl (.inl hf)) hw
  · exact fun w' nobody hw => .unknown nobody hw
  intro u w₁ known hw fault
  simp only [Act.resume_ok]
  rw [Act.bind_eq_resume]
  refine Store.blockUser_induct (P := fun p => BlockEnd login (.known blocked) w
    (Act.resume _ p)) ?_ ?_ ?_
  · intro w' second hw'
    have second : w.faultIn = 2 := by omega
    exact .failed (.inl (.inr second)) (hw.quiet hw')
  · intro w' missing _
    rw [hw.store_eq] at missing
    exact absurd missing (Store.user?_ne_none (Store.userByLogin?_eq_some known).1)
  · intro v w' _ hw'
    rw [hw.store_eq] at hw'
    exact .flagged u blocked rfl known ((hw.trans hw').quiet (World.quiet_log _ _ _))

/-- Setting anything else changes nothing. -/
theorem blockEnd_of_untrue (login : String) (flag : Flag)
    (untrue : ∀ blocked, flag ≠ .known blocked) (w : World) :
    BlockEnd login flag w ((named login >>= fun id? =>
      match id? with
      | none => return false
      | some id => do
        Store.flagUser id flag
        return true) w) := by
  rw [Act.bind_eq_resume]
  refine named_induct (P := fun p => BlockEnd login flag w (Act.resume _ p)) ?_ ?_ ?_
  · exact fun e w' _ hw => .failed (.inr untrue) hw
  · exact fun w' nobody hw => .unknown nobody hw
  intro u w₁ known hw _
  simp only [Act.resume_ok]
  rw [Act.bind_eq_resume]
  exact Store.flagUser_induct u.id flag untrue
    (P := fun p => BlockEnd login flag w (Act.resume _ p))
    fun e w' hw' => .failed (.inr untrue) (hw.quiet hw')

/-- **Setting the flag of an account ends in one of these ways.** -/
theorem blockEnd (login : String) (flag : Flag) (w : World) :
    BlockEnd login flag w (blockWith login flag w) := by
  cases flag with
  | known blocked => exact blockEnd_of_known login blocked w
  | nothing => exact blockEnd_of_untrue login .nothing nofun w
  | unfit => exact blockEnd_of_untrue login .unfit nofun w

end LoginGate.Service
