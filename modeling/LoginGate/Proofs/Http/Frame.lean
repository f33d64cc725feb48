import LoginGate.Proofs.Http.Exchange
import LoginGate.Proofs.Run.Access
import LoginGate.Proofs.Signing

/-!
# Proofs/Http/Frame — what a request may do to the tables, and by what right

Whatever a request is, it writes in one of seven ways, and each of them has its right (`Written`):
the caller's own access token, the password of the account, or the refresh token of the session. The
frame theorem is a case analysis over these. It needs sessions to be apart, since an expired session
is deleted by its identifier and owner, and these have to be those of the session presented.

A request is taken whole here: no other one comes between the halves of a refresh.
-/

namespace LoginGate

namespace Http.Site

variable {site : Site} {r : Request} {w v : World}

/-- **A request is let in as a user**: its access token is verified now, and the user's account is
there and not blocked. -/
structure LetsIn (site : Site) (r : Request) (w : World) (u : User) : Prop where
  verified : (site.service.verify r.fields.bearer w).1 = .ok u.id
  known : u ∈ w.store.users
  unblocked : u.isBlocked = false

/-- **What becomes of the tables, and by what right.** -/
inductive Written (site : Site) (r : Request) (w : World) :
    Except Failure Response → Store → Prop where
  | nothing {outcome} : Written site r w outcome w.store
  /-- A registration that succeeds adds an account. -/
  | enrolled {response} (posts : r.Posts .register) (created : response.status = 201) (u : User)
    (unblocked : u.isBlocked = false) (unique : w.store.hasSameColumn u = false) :
    Written site r w (.ok response) (w.store.addUser u)
  /-- A login opens a session for the account that the name is of and the password fits. -/
  | opened {outcome} (posts : r.Posts .login) (f : LoginForm)
    (form : formOf r LoginForm.ofJson = .ok f) (u : User)
    (known : w.store.userByLogin? f.login = some u)
    (fit : Password.verify f.password u.passwordHash = .ok true) (s : Session)
    (owner : s.owner = u.id) (unique : w.store.hasSession s = false) :
    Written site r w outcome (w.store.addSession s)
  /-- A refresh rotates a session that has the refresh token presented. -/
  | rotated {outcome} (posts : r.Posts .refresh) (renewed : Session) :
    Written site r w outcome (w.store.rotate renewed (site.presentedToken r))
  /-- A refresh finds the session of the refresh token presented expired, and deletes it. -/
  | swept {outcome} (posts : r.Posts .refresh) (s : Session) (mem : s ∈ w.store.sessions)
    (held : s.refreshToken = site.presentedToken r) :
    Written site r w outcome (w.store.deleteSession s.owner s.id)
  /-- A log-out deletes the session named, if it is the caller's. -/
  | ended {outcome} (posts : r.Posts .logout) (u : User) (caller : LetsIn site r w u)
    (f : LogoutForm) (form : formOf r LogoutForm.ofJson = .ok f) :
    Written site r w outcome (w.store.deleteSession u.id f.sessionId)
  /-- A log-out everywhere deletes the sessions of the caller. -/
  | endedAll {outcome} (posts : r.Posts .logoutAll) (u : User) (caller : LetsIn site r w u) :
    Written site r w outcome (w.store.deleteSessions u.id)

/-- What an outcome and the world left behind say of a request. -/
structure Touches (site : Site) (r : Request) (w : World) (p : Except Failure Response × World) :
    Prop where
  effect : Effect site.service w p.2
  written : Written site r w p.1 p.2.store

namespace Touches

theorem of_quiet {outcome : Except Failure Response} {w' : World} (h : w.Quiet w') :
    Touches site r w (outcome, w') where
  effect := .of_quiet h
  written := h.store_eq ▸ .nothing

/-- What is drawn for nothing touches nothing. -/
theorem of_effect {outcome : Except Failure Response} {w' : World}
    (effect : Effect site.service w w') (same : w'.store = w.store) :
    Touches site r w (outcome, w') where
  effect := effect
  written := same ▸ .nothing

end Touches

/-! ## One endpoint after another -/

theorem register_touches (posts : r.Posts .register) (w : World) :
    Touches site r w (site.register r w) := by
  rw [register_eq, Act.bind_eq_resume, Act.ofExcept_apply]
  cases formOf r RegisterForm.ofJson with
  | error e => exact .of_quiet (.refl w)
  | ok f =>
  rw [Act.resume_ok, Act.bind_eq_resume, ← Service.registerWith_text]
  have ends := Service.registerEnd site.service (.text f.username) (.text f.email)
    (.text f.password) w
  generalize site.service.registerWith _ _ _ w = p at ends ⊢
  have effect := ends.effect
  cases ends with
  | refused after => exact .of_effect effect (after.elim (·.store_eq) (·.store_eq))
  | registered u secret n _ _ _ _ _ _ unblocked _ unique after =>
    refine ⟨effect, ?_⟩
    rw [Act.resume_ok, Act.pure_apply]
    exact after.store_eq ▸ .enrolled posts rfl u unblocked unique

theorem login_touches (posts : r.Posts .login) (w : World) :
    Touches site r w (site.login r w) := by
  rw [login_eq, Act.bind_eq_resume, Act.ofExcept_apply]
  cases form : formOf r LoginForm.ofJson with
  | error e => exact .of_quiet (.refl w)
  | ok f =>
  rw [Act.resume_ok, Act.bind_eq_resume]
  unfold Service.login
  have ends := Service.loginEnd site.service (.text f.login) (.text f.password)
    (.text (r.fields.getText "User-Agent")) (.ofOption (some r.clientAddress)) w
  generalize site.service.loginWith _ _ _ _ w = p at ends ⊢
  have effect := ends.effect
  cases ends with
  | refused bar after => exact .of_effect effect (after.elim (·.store_eq) (·.store_eq))
  | @admitted w' accessToken u expires agent ip known fit issued within told address unique after =>
    rw [Act.resume_ok]
    have quiet := site.isQuiet_admitted
      ⟨u.id, accessToken, site.service.supply.token (w.tokens + 1),
        site.service.supply.id (w.ids + 1)⟩ w'
    refine ⟨effect.before_quiet quiet, ?_⟩
    rw [quiet.store_eq, after.store_eq]
    exact .opened posts f form u known (mapError_eq_ok.mp fit) _ rfl unique

theorem refresh_touches (posts : r.Posts .refresh) (w : World) :
    Touches site r w (site.refresh r w) := by
  rw [refresh_eq]
  split
  · exact .of_quiet (.refl w)
  rw [Act.bind_eq_resume]
  refine Service.refresh_induct (site.presentedToken r)
    (P := fun p => Touches site r w (Act.resume _ p)) (fun _ _ hw => .of_quiet hw) ?_
  intro s w₁ p found hw done
  have effect := done.effect.after_quiet hw
  have mem : s ∈ w.store.sessions := List.mem_of_find?_eq_some found
  have held : s.refreshToken = site.presentedToken r := by simpa using List.find?_some found
  cases done with
  | undated _ after | unswept _ _ _ after | overlong _ _ _ after | unrotated _ _ _ after
  | lost _ _ _ _ after => exact .of_effect effect (after.store_eq.trans hw.store_eq)
  | swept date expired answers after =>
    refine ⟨effect, ?_⟩
    rw [Act.resume_error, after.store_eq, hw.store_eq]
    exact .swept posts s mem held
  | unissued live within answers there free issue after =>
    refine ⟨effect, ?_⟩
    rw [Act.resume_error, after.store_eq, hw.store_eq]
    exact .rotated posts _
  | @renewed w' expires accessToken live within answers there free issue after =>
    rw [Act.resume_ok]
    have quiet := site.isQuiet_renewed ⟨accessToken, site.service.supply.token (w₁.tokens + 1)⟩ w'
    refine ⟨effect.before_quiet quiet, ?_⟩
    rw [quiet.store_eq, after.store_eq, hw.store_eq]
    exact .rotated posts _

/-! ## Endpoints for callers -/

/-- A caller is let in, or there is no answer; either way nothing is touched. -/
theorem caller_induct {P : Except Failure Uuid × World → Prop}
    (refused : ∀ e w', w.Quiet w' → P (.error e, w'))
    (letIn : ∀ u w', LetsIn site r w u → w.Quiet w' → P (.ok u.id, w')) : P (site.caller r w) := by
  rw [caller_eq]
  split
  · exact refused _ _ (w.quiet_log _ _)
  · have ends := Service.verifyEnd site.service r.fields.bearer w
    generalize verified : site.service.verify r.fields.bearer w = p at ends ⊢
    cases ends with
    | refused after => exact refused _ _ after
    | accepted u signed answers known free after =>
      exact letIn u _ ⟨congrArg Prod.fst verified, (Store.user?_eq_some known).1, free⟩ after

theorem logout_touches (posts : r.Posts .logout) {u : User} (caller : LetsIn site r w u)
    (hw : w.Quiet v) : Touches site r w (logout u.id r v) := by
  rw [logout_eq, Act.bind_eq_resume, Act.ofExcept_apply]
  cases form : formOf r LogoutForm.ofJson with
  | error e => exact .of_quiet hw
  | ok f =>
  rw [Act.resume_ok, Act.bind_eq_resume]
  have ends := Service.logoutEnd u.id f.sessionId v
  generalize Service.logout u.id f.sessionId v = p at ends ⊢
  have effect : Effect site.service v p.2 := ends.effect fun after => .ended _ _ after
  cases ends with
  | failed after => exact .of_effect (effect.after_quiet hw) (after.store_eq.trans hw.store_eq)
  | ended after =>
    refine ⟨effect.after_quiet hw, ?_⟩
    rw [Act.resume_ok, Act.pure_apply, after.store_eq, hw.store_eq]
    exact .ended posts u caller f form

theorem logoutAll_touches (posts : r.Posts .logoutAll) {u : User} (caller : LetsIn site r w u)
    (hw : w.Quiet v) : Touches site r w (site.logoutAll u.id v) := by
  unfold logoutAll
  rw [Act.bind_eq_resume]
  have ends := Service.logoutAllEnd u.id v
  generalize Service.logoutAll u.id v = p at ends ⊢
  have effect : Effect site.service v p.2 := ends.effect fun after => .endedAll _ after
  cases ends with
  | failed after => exact .of_effect (effect.after_quiet hw) (after.store_eq.trans hw.store_eq)
  | @ended w' after =>
    rw [Act.resume_ok, Act.bind_eq_resume, Act.ofExcept_apply]
    have written : ∀ outcome, Written site r w outcome w'.store := fun outcome => by
      rw [after.store_eq, hw.store_eq]
      exact .endedAll posts u caller
    cases site.clearedCookie with
    | error e => exact ⟨effect.after_quiet hw, written _⟩
    | ok cookie => exact ⟨(effect.after_quiet hw).before_quiet (World.quiet_log _ _ _), written _⟩

/-- **Whatever an endpoint answers, it writes by right.** -/
theorem answer_touches {e : Endpoint} (asks : r.Asks e) (w : World) :
    Touches site r w (site.answer e r w) := by
  cases e with
  | register => exact register_touches (asks.posts rfl) w
  | login => exact login_touches (asks.posts rfl) w
  | refresh => exact refresh_touches (asks.posts rfl) w
  | health | file => exact .of_quiet (.refl w)
  | logout =>
    rw [answer_of_needsCaller site r w rfl]
    refine caller_induct (P := fun p => Touches site r w (Act.resume _ p))
      (fun _ _ hw => .of_quiet hw) fun u w' caller hw => ?_
    exact logout_touches (asks.posts rfl) caller hw
  | logoutAll =>
    rw [answer_of_needsCaller site r w rfl]
    refine caller_induct (P := fun p => Touches site r w (Act.resume _ p))
      (fun _ _ hw => .of_quiet hw) fun u w' caller hw => ?_
    exact logoutAll_touches (asks.posts rfl) caller hw
  | me =>
    rw [answer_of_needsCaller site r w rfl]
    exact caller_induct (P := fun p => Touches site r w (Act.resume _ p))
      (fun _ _ hw => .of_quiet hw) fun _ _ _ hw => .of_quiet hw

/-! ## Whole exchanges -/

theorem status_finish (r : Request) (response : Response) :
    (site.finish r response).status = response.status := by
  unfold finish
  simp only
  split <;> rfl

/-- Whoever is verified once the arrival is logged would have been verified before. -/
theorem verify_arrived (site : Site) (r : Request) (w : World) (accessToken : String) :
    (site.service.verify accessToken (site.arrived r w)).1 =
      (site.service.verify accessToken w).1 := Service.verify_fst_congr accessToken rfl rfl rfl

theorem LetsIn.of_arrived {u : User} (h : LetsIn site r (site.arrived r w) u) :
    LetsIn site r w u :=
  ⟨(verify_arrived site r w _).symm.trans h.verified, h.known, h.unblocked⟩

/-- What is written once the arrival is logged has the same right when the response is on its
way. -/
theorem Written.responded {outcome : Except Failure Response} {store : Store}
    (h : Written site r (site.arrived r w) outcome store) :
    Written site r w (.ok (site.finish r (Site.shown outcome))) store := by
  cases h with
  | nothing => exact .nothing
  | enrolled posts created u unblocked unique =>
    exact .enrolled posts ((status_finish r _).trans created) u unblocked unique
  | opened posts f form u known fit s owner unique =>
    exact .opened (w := w) posts f form u known fit s owner unique
  | rotated posts renewed => exact .rotated posts renewed
  | swept posts s mem held => exact .swept posts s mem held
  | ended posts u caller f form => exact .ended posts u caller.of_arrived f form
  | endedAll posts u caller => exact .endedAll posts u caller.of_arrived

/-- **Every request is responded to, and writes by right.** -/
theorem respond_touches (site : Site) (r : Request) (w : World) : ∃ response,
    (site.respond r w).1 = .ok response ∧ Effect site.service w (site.respond r w).2 ∧
      Written site r w (.ok response) (site.respond r w).2.store := by
  by_cases asked : ∃ e, r.Asks e
  · obtain ⟨e, asks⟩ := asked
    obtain ⟨w', responds, quiet⟩ := site.respond_of_asks w asks
    have touches : Touches site r (site.arrived r w) _ := answer_touches asks (site.arrived r w)
    rw [responds]
    refine ⟨_, rfl, (touches.effect.after_quiet (site.quiet_arrived w r)).before_quiet quiet, ?_⟩
    rw [quiet.store_eq]
    exact touches.written.responded
  · obtain ⟨response, turned⟩ := site.respond_of_not_asks fun e asks => asked ⟨e, asks⟩
    obtain ⟨w', responds, quiet⟩ := turned w
    rw [responds]
    exact ⟨_, rfl, .of_quiet quiet, quiet.store_eq ▸ .nothing⟩

/-! ## Where a site can get to -/

/-- **A state that a site can get to**: by requests, and by whatever can happen in a run. -/
inductive Reached (site : Site) : Run.State → Prop where
  | start (now : Instant) (threshold : Log.Level) : Reached site (Run.start now threshold)
  | event {σ} (e : Run.Event) (before : Reached site σ) :
    Reached site (Run.step site.service σ e).2
  | request {σ} (r : Request) (before : Reached site σ) :
    Reached site { σ with world := (site.respond r σ.world).2 }

namespace Reached

variable {σ : Run.State}

/-- Wherever a run leads, the site can get to. -/
theorem of_run (h : Reached site σ) (events : List Run.Event) :
    Reached site (Run.run site.service σ events) :=
  Run.run_induct (P := Reached site) (fun _ e => .event e) h events

/-- **What every effect and every fault preserves holds wherever the site can get to.** -/
theorem induct {P : World → Prop} (h : Reached site σ)
    (start : ∀ now threshold, P (Run.start now threshold).world)
    (effect : ∀ {w w'}, Effect site.service w w' → P w → P w')
    (fault : ∀ {w : World} (calls : Nat), P w → P { w with faultIn := calls }) : P σ.world := by
  induction h with
  | start now threshold => exact start now threshold
  | event e before ih =>
    exact Run.step_induct e (fun taken => effect taken ih) fun calls => fault calls ih
  | @request σ r before ih =>
    obtain ⟨response, -, taken, -⟩ := respond_touches site r σ.world
    exact effect taken ih

theorem keyed (h : Reached site σ) : σ.world.store.Keyed :=
  h.induct (P := fun w => w.store.Keyed) (fun _ _ => .empty) (fun effect => effect.change.keyed)
    fun _ keyed => keyed

theorem apart (h : Reached site σ) : σ.world.store.Apart :=
  h.induct (P := fun w => w.store.Apart) (fun _ _ => .empty) (fun effect => effect.change.apart)
    fun _ apart => apart

/-- What is stored has been drawn. -/
theorem covers (h : Reached site σ) : site.service.supply.Covers σ.world :=
  h.induct (P := fun w => site.service.supply.Covers w) (Run.start_covers site.service)
    (fun effect => effect.covers) fun _ covers => ⟨covers.ids, covers.tokens⟩

/-- Where a session is stored, access tokens can be signed. -/
theorem canSign (h : Reached site σ) : ∀ s ∈ σ.sessions, site.service.signer.CanSign :=
  h.induct (P := fun w => ∀ s ∈ w.store.sessions, site.service.signer.CanSign)
    (fun _ _ _ hs => absurd hs List.not_mem_nil) (fun effect => effect.canSign)
    fun _ canSign => canSign

end Reached

/-! ## The frame -/

/-- **The right to have a session deleted or replaced.** -/
inductive MayChange (site : Site) (r : Request) (w : World) (s : Session) : Prop where
  /-- It is the session of the caller that the log-out names. -/
  | logout (posts : r.Posts .logout) (u : User) (caller : LetsIn site r w u)
    (owner : s.owner = u.id) (f : LogoutForm) (form : formOf r LogoutForm.ofJson = .ok f)
    (named : s.id = f.sessionId)
  /-- It is one of the caller's. -/
  | logoutAll (posts : r.Posts .logoutAll) (u : User) (caller : LetsIn site r w u)
    (owner : s.owner = u.id)
  /-- Its refresh token is the one presented. -/
  | refresh (posts : r.Posts .refresh) (presented : s.refreshToken = site.presentedToken r)

/-- **The right to open a session**: the name and the password are those of its owner. -/
structure MayOpen (site : Site) (r : Request) (w : World) (s : Session) : Prop where
  posts : r.Posts .login
  admits : ∃ f u, formOf r LoginForm.ofJson = .ok f ∧ u ∈ w.store.users ∧ u.id = s.owner ∧
    u.answersTo f.login = true ∧ Password.verify f.password u.passwordHash = .ok true

/-- A session is what a refresh has made of the one whose token it presents. -/
structure Renews (site : Site) (r : Request) (w : World) (s : Session) : Prop where
  posts : r.Posts .refresh
  renewed : ∃ old ∈ w.store.sessions, old.refreshToken = site.presentedToken r ∧
    s = old.rotated s.refreshToken s.created s.expires

namespace Written

variable {outcome : Except Failure Response} {response : Response} {store : Store} {s : Session}

/-- Nobody loses a session but by right. -/
theorem mayChange (h : Written site r w outcome store) (keyed : w.store.Keyed)
    (mem : s ∈ w.store.sessions) (gone : s ∉ store.sessions) : MayChange site r w s := by
  cases h with
  | nothing => exact absurd mem gone
  | enrolled => exact absurd mem gone
  | opened => exact absurd (List.mem_append_left _ mem) gone
  | rotated posts renewed =>
    refine .refresh posts ?_
    by_contra other
    refine gone (List.mem_map.mpr ⟨s, mem, if_neg fun rotatable => other ?_⟩)
    exact (Store.isRotatable_iff.mp rotatable).2.2
  | swept posts t there held =>
    -- what is deleted goes by identifier and owner, and only the session presented has these
    obtain ⟨id, -⟩ : s.id = t.id ∧ s.owner = t.owner := by
      by_contra other
      exact gone (Store.mem_deleteSession.mpr ⟨mem, other⟩)
    obtain rfl := keyed.eq_of_id mem there id
    exact .refresh posts held
  | ended posts u caller f form =>
    obtain ⟨id, owner⟩ : s.id = f.sessionId ∧ s.owner = u.id := by
      by_contra other
      exact gone (Store.mem_deleteSession.mpr ⟨mem, other⟩)
    exact .logout posts u caller owner f form id
  | endedAll posts u caller =>
    refine .logoutAll posts u caller ?_
    by_contra other
    exact gone (Store.mem_deleteSessions.mpr ⟨mem, other⟩)

/-- Nobody gets a session but by right. -/
theorem kept_or_new (h : Written site r w outcome store) (mem : s ∈ store.sessions) :
    s ∈ w.store.sessions ∨ Renews site r w s ∨ s.id ∉ w.store.sessionIds ∧ MayOpen site r w s := by
  cases h with
  | nothing => exact .inl mem
  | enrolled => exact .inl mem
  | opened posts f form u known fit t owner unique =>
    refine (List.mem_append.mp mem).imp id fun new => .inr ?_
    obtain rfl := List.mem_singleton.mp new
    obtain ⟨there, answers⟩ := Store.userByLogin?_eq_some known
    refine ⟨fun stored => ?_, posts, f, u, form, there, owner.symm, answers, fit⟩
    obtain ⟨t, ht, id⟩ := Store.mem_sessionIds.mp stored
    have other := List.any_eq_false.mp unique t ht
    simp [id] at other
  | rotated posts renewed =>
    refine (Store.mem_rotate mem).imp And.left fun ⟨old, there, rotatable, same⟩ => .inl ?_
    exact ⟨posts, old, there, (Store.isRotatable_iff.mp rotatable).2.2, same ▸ rfl⟩
  | swept | ended => exact .inl (Store.mem_deleteSession.mp mem).1
  | endedAll => exact .inl (Store.mem_deleteSessions.mp mem).1

/-- Nobody gets an account but by registering. -/
theorem users (h : Written site r w (.ok response) store) : store.users = w.store.users ∨
    r.Posts .register ∧ response.status = 201 ∧ ∃ u, store.users = w.store.users ++ [u] := by
  cases h with
  | enrolled posts created u unblocked unique => exact .inr ⟨posts, created, u, rfl⟩
  | nothing | opened | rotated | swept | ended | endedAll => exact .inl rfl

/-- No account has its flag changed. -/
theorem isBlocked_eq (h : Written site r w outcome store) (apart : w.store.Apart) {u v : User}
    (hu : u ∈ w.store.users) (hv : v ∈ store.users) (id : v.id = u.id) :
    v.isBlocked = u.isBlocked := by
  have same (mem : v ∈ w.store.users) : v.isBlocked = u.isBlocked := by
    rw [List.inj_on_of_nodup_map apart.ids mem hu id]
  cases h with
  | nothing | opened | rotated | swept | ended | endedAll => exact same hv
  | enrolled posts created new unblocked unique =>
    rcases List.mem_append.mp hv with hv | hv
    · exact same hv
    · obtain rfl := List.mem_singleton.mp hv
      have other := List.any_eq_false.mp unique u hu
      simp [id] at other

end Written

/-- **What a request does to the tables stays within its rights.** -/
structure Confined (site : Site) (r : Request) (w : World) (response : Response) (after : Store) :
    Prop where
  /-- A session that is not there as it was has been deleted or replaced by right. -/
  changed : ∀ s ∈ w.store.sessions, s ∉ after.sessions → MayChange site r w s
  /-- A session under an identifier of its own has been opened by right. -/
  opened : ∀ s ∈ after.sessions, s.id ∉ w.store.sessionIds → MayOpen site r w s
  /-- A session under an identifier that was there is as it was, or has just been renewed. -/
  kept : ∀ s ∈ after.sessions, s.id ∈ w.store.sessionIds → s ∈ w.store.sessions ∨ Renews site r w s
  /-- Accounts stay as they are, but for the one that a successful registration adds. -/
  users : after.users = w.store.users ∨
    r.Posts .register ∧ response.status = 201 ∧ ∃ u, after.users = w.store.users ++ [u]
  /-- No account has its flag changed. -/
  flags : ∀ u ∈ w.store.users, ∀ v ∈ after.users, v.id = u.id → v.isBlocked = u.isBlocked

/-- **No request goes beyond its rights**, wherever the site has got to. -/
theorem respond_confined {σ : Run.State} (reached : Reached site σ) (r : Request) :
    ∃ response, (site.respond r σ.world).1 = .ok response ∧
      Confined site r σ.world response (site.respond r σ.world).2.store := by
  obtain ⟨response, responds, -, written⟩ := respond_touches site r σ.world
  refine ⟨response, responds, ?_⟩
  generalize (site.respond r σ.world).2.store = after at written
  constructor
  · exact fun s mem gone => written.mayChange reached.keyed mem gone
  · intro s mem new
    obtain old | ⟨-, old, there, -, same⟩ | ⟨-, opens⟩ := written.kept_or_new mem
    · exact absurd (Store.mem_sessionIds.mpr ⟨s, old, rfl⟩) new
    · exact absurd (Store.mem_sessionIds.mpr ⟨old, there, same ▸ rfl⟩) new
    · exact opens
  · intro s mem stored
    obtain old | renews | ⟨new, -⟩ := written.kept_or_new mem
    · exact .inl old
    · exact .inr renews
    · exact absurd stored new
  · exact written.users
  · exact fun u hu v hv id => written.isBlocked_eq reached.apart hu hv id

/-- The site of a service with the settings that are in force if nothing is set. -/
def plainSite : Site where
  service := Run.plain
  security := Run.plainConfig.security
  origins := ⟨[.everyone], false⟩
  debugLogging := false
  cookieAge := 1296000
  freshCorrelation := "fresh"

/-- A post to an endpoint. -/
def post (e : Endpoint) (fields : Fields) (body : String) : Request where
  method := "POST"
  path := e.path
  fields := ("Host", "localhost") :: fields
  peer := "127.0.0.1"
  body := Bytes.ofText body

/-- A session has been opened. -/
def visited : Run.State := Run.run plainSite.service (Run.start 0 .info) Run.opening

/-- A refresh of that session. -/
def refreshing : Request := post .refresh [("Cookie", "refresh_token=r")] ""

theorem refreshing_asks : refreshing.Asks .refresh :=
  ⟨by decide +kernel, by decide +kernel, by decide +kernel, by decide⟩

set_option maxRecDepth 100000 in
/-- The session is replaced. -/
theorem visited_refreshed : Run.firstSession ∈ visited.sessions ∧
    (plainSite.respond refreshing visited.world).2.store.refreshTokens = ["rr"] := by
  decide +kernel

/-- The session is replaced, and its refresh token is what gives the right to it. -/
theorem visited_confined : Reached plainSite visited ∧ Run.firstSession ∈ visited.sessions ∧
    ∃ response, (plainSite.respond refreshing visited.world).1 = .ok response ∧
      Confined plainSite refreshing visited.world response
        (plainSite.respond refreshing visited.world).2.store ∧
      MayChange plainSite refreshing visited.world Run.firstSession := by
  obtain ⟨mem, tokens⟩ := visited_refreshed
  have reached : Reached plainSite visited := .of_run (.start 0 .info) Run.opening
  obtain ⟨response, responds, confined⟩ := respond_confined reached refreshing
  refine ⟨reached, mem, response, responds, confined, confined.changed _ mem fun still => ?_⟩
  have held := Store.mem_refreshTokens.mpr ⟨_, still, rfl⟩
  rw [tokens] at held
  exact absurd held (by decide)

end Http.Site
end LoginGate
