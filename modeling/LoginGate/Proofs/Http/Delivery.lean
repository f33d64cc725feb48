import LoginGate.Proofs.Http.Cookies
import LoginGate.Proofs.Http.Frame
import LoginGate.Proofs.Refresh.Outcome
import LoginGate.Proofs.Run.Acceptance

/-!
# Proofs/Http/Delivery — whether the client gets hold of a session

A session is committed before the response is made, and its refresh token travels in a cookie. That
the cookie can be made and read back depends on settings that are not looked at before the first one
is due (`Delivers`). If they are fit, the client holds a token that renews the session for as long
as it lasts; if not, the session stays behind and the response is an internal error, or sets a
cookie that nobody finds.
-/

namespace LoginGate

namespace Http.Site

variable {site : Site} {r : Request} {w : World} {token : String}

/-! ## The refresh cookie -/

/-- **What it takes to deliver a session** at a time: there is a date for the cookie to expire at,
the settings say to which sites it goes, and its name can be read back. -/
structure Delivers (site : Site) (now : Instant) : Prop where
  dated : (Date.after? now site.cookieAge).isSome
  marked : (SetCookie.sameSite? site.security.cookieSamesite).isSome
  readable : SetCookie.Readable site.security.refreshCookieName

/-- **How the refresh cookie can turn out.** -/
inductive CookieEnd (site : Site) (token : String) (now : Instant) :
    Except Failure (String × String) → Prop where
  | unmade (unfit : ¬ Delivers site now) : CookieEnd site token now (.error .badCookie)
  | made (cookie : SetCookie) {text : String} (name : cookie.name = site.security.refreshCookieName)
    (value : cookie.value = token) (written : cookie.text = .ok text)
    (dated : (Date.after? now site.cookieAge).isSome)
    (marked : (SetCookie.sameSite? site.security.cookieSamesite).isSome) :
    CookieEnd site token now (.ok ("Set-Cookie", text))

/-- The refresh cookie turns out in one of these ways. -/
theorem cookieEnd (site : Site) (token : String) (now : Instant) :
    CookieEnd site token now (site.refreshCookie token now) := by
  unfold refreshCookie
  split
  · next expires word date mark =>
    simp only [bind, Except.bind]
    split
    · next f failed =>
      obtain ⟨rfl, unreadable⟩ := SetCookie.text_eq_error failed
      exact .unmade fun delivers => unreadable delivers.readable
    · next text written => exact .made _ rfl rfl written (date ▸ rfl) (mark ▸ rfl)
  · next none =>
    refine .unmade fun delivers => ?_
    obtain ⟨expires, date⟩ := Option.isSome_iff_exists.mp delivers.dated
    obtain ⟨word, mark⟩ := Option.isSome_iff_exists.mp delivers.marked
    exact none expires word date mark

/-! ## From the session to the response -/

/-- **A session is committed**: a login or a refresh has returned, and the session is stored under
this refresh token. -/
inductive Committed (site : Site) (r : Request) (w : World) : String → Prop where
  | login (asks : r.Asks .login) (f : LoginForm) (form : formOf r LoginForm.ofJson = .ok f)
    (a : Admission)
    (returns : (site.service.login f.login f.password (r.fields.getText "User-Agent")
      (some r.clientAddress) (site.arrived r w)).1 = .ok a) : Committed site r w a.refreshToken
  | refresh (asks : r.Asks .refresh) (pair : TokenPair)
    (returns : (site.service.refresh (site.presentedToken r) (site.arrived r w)).1 = .ok pair) :
    Committed site r w pair.refreshToken

/-- The response to a login is there if the cookie is. -/
theorem admitted_fst (a : Admission) (w : World) : (site.admitted a w).1 =
    (site.refreshCookie a.refreshToken w.now).map fun cookie =>
      (Response.json 200 (.object [("user_id", .text a.user.text),
        ("access_token", .text a.accessToken), ("session_id", .text a.session.text)])).adding
          [cookie] :=
  Act.bind_pure_fst _ _ w

theorem renewed_fst (pair : TokenPair) (w : World) : (site.renewed pair w).1 =
    (site.refreshCookie pair.refreshToken w.now).map fun cookie =>
      (Response.json 200 (.object [("access_token", .text pair.accessToken)])).adding [cookie] :=
  Act.bind_pure_fst _ _ w

/-- What an endpoint has come to that has committed a session: the session is stored, and the answer
hangs on the cookie. -/
structure Hands (site : Site) (token : String) (now : Instant)
    (p : Except Failure Response × World) : Prop where
  stored : ∃ s ∈ p.2.store.sessions, s.refreshToken = token
  answer : ∃ doc, p.1 = (site.refreshCookie token now).map fun cookie =>
    (Response.json 200 doc).adding [cookie]

theorem login_hands (f : LoginForm) (form : formOf r LoginForm.ofJson = .ok f) {a : Admission}
    (returns : (site.service.login f.login f.password (r.fields.getText "User-Agent")
      (some r.clientAddress) w).1 = .ok a) : Hands site a.refreshToken w.now (site.login r w) := by
  rw [login_eq, Act.bind_eq_resume, Act.ofExcept_apply, form, Act.resume_ok, Act.bind_eq_resume]
  unfold Service.login at returns ⊢
  have ends := Service.loginEnd site.service (.text f.login) (.text f.password)
    (.text (r.fields.getText "User-Agent")) (.ofOption (some r.clientAddress)) w
  generalize site.service.loginWith _ _ _ _ w = p at returns ends ⊢
  rcases p with ⟨_ | b, w'⟩
  · exact nomatch returns
  obtain rfl := Except.ok.inj returns
  have now : w'.now = w.now := by
    cases ends with
    | admitted _ _ _ _ _ _ _ _ _ _ _ after => exact after.now_eq
  obtain ⟨s, stored, -, -, same⟩ := ends.stored
  rw [Act.resume_ok]
  constructor
  · rw [((site.isQuiet_admitted _) w').store_eq]
    exact ⟨s, stored, same⟩
  · rw [admitted_fst, now]
    exact ⟨_, rfl⟩

theorem refresh_hands {pair : TokenPair}
    (returns : (site.service.refresh (site.presentedToken r) w).1 = .ok pair) :
    Hands site pair.refreshToken w.now (site.refresh r w) := by
  have named : site.presentedToken r ≠ "" := by
    intro unnamed
    rw [unnamed] at returns
    exact nomatch returns
  rw [refresh_eq, if_neg named, Act.bind_eq_resume]
  revert returns
  refine Service.refresh_induct (site.presentedToken r) (P := fun p => p.1 = .ok pair →
    Hands site pair.refreshToken w.now (Act.resume _ p)) (fun _ _ _ returns => nomatch returns) ?_
  rintro s w₁ ⟨_ | new, w'⟩ - hw done returns
  · exact nomatch returns
  obtain rfl := Except.ok.inj returns
  have now : w'.now = w.now := by
    cases done with
    | renewed _ _ _ _ _ _ after => exact after.now_eq.trans hw.now_eq
  obtain ⟨s, stored, same, -⟩ := done.stored
  rw [Act.resume_ok]
  constructor
  · rw [((site.isQuiet_renewed _) w').store_eq]
    exact ⟨s, stored, same⟩
  · rw [renewed_fst, now]
    exact ⟨_, rfl⟩

/-- The endpoint asked has committed the session. -/
theorem Committed.hands (committed : Committed site r w token) : ∃ e, r.Asks e ∧
    Hands site token w.now (site.answer e r (site.arrived r w)) := by
  cases committed with
  | login asks f form a returns => exact ⟨.login, asks, login_hands f form returns⟩
  | refresh asks pair returns => exact ⟨.refresh, asks, refresh_hands returns⟩

/-- **How a committed session can be responded to**: with its cookie and no other one, or with an
internal error. -/
inductive Handover (site : Site) (token : String) (now : Instant) (response : Response) : Prop where
  | failed (status : response.status = 500) (unfit : ¬ Delivers site now)
  | handed (status : response.status = 200) (cookie : SetCookie) (text : String)
    (name : cookie.name = site.security.refreshCookieName) (value : cookie.value = token)
    (written : cookie.text = .ok text)
    (sole : ∀ value, ("Set-Cookie", value) ∈ response.fields ↔ value = text)
    (dated : (Date.after? now site.cookieAge).isSome)
    (marked : (SetCookie.sameSite? site.security.cookieSamesite).isSome)

/-- **A committed session is stored, and is responded to in one of these ways.** -/
theorem Committed.handover (committed : Committed site r w token) :
    (∃ s ∈ (site.respond r w).2.store.sessions, s.refreshToken = token) ∧
    ∃ response, (site.respond r w).1 = .ok response ∧ Handover site token w.now response := by
  obtain ⟨e, asks, stored, doc, answer⟩ := committed.hands
  obtain ⟨w', responds, quiet⟩ := site.respond_of_asks w asks
  rw [responds, quiet.store_eq, answer]
  refine ⟨stored, _, rfl, ?_⟩
  have cookieEnd := cookieEnd site token w.now
  generalize site.refreshCookie token w.now = cookie at cookieEnd ⊢
  cases cookieEnd with
  | unmade unfit => exact .failed (status_finish r _) unfit
  | @made cookie text name value written dated marked =>
    refine .handed (status_finish r _) cookie text name value written (fun value => ?_) dated marked
    rw [setCookie_mem_finish_iff site asks.actual]
    simp [Except.map, shown, Response.adding, Response.json]

/-! ## From the response to the next refresh -/

/-- A request sends a cookie back that has been set. -/
def SendsBack (r : Request) (value : String) : Prop :=
  r.fields.getText "Cookie" = SetCookie.sentBack value

/-- **What a cookie is good for**: sent back, it presents a refresh token, and a refresh with it
succeeds at any moment at which a live session is stored under that token. -/
structure Renewing (site : Site) (token value : String) : Prop where
  presents : ∀ r : Request, SendsBack r value → site.presentedToken r = token
  succeeds : ∀ (r : Request) {σ : Run.State} {s : Session}, r.Asks .refresh → SendsBack r value →
    Reached site σ → s ∈ σ.sessions → s.refreshToken = token → σ.world.now < s.expires →
    site.service.Refreshes σ.world → (Date.after? σ.world.now site.cookieAge).isSome →
    ∃ response next, (site.respond r σ.world).1 = .ok response ∧ response.status = 200 ∧
      Committed site r σ.world next

/-- **A committed session is delivered**: the response succeeds, and it sets a cookie that renews
the session. -/
structure Delivered (site : Site) (token : String) (response : Response) : Prop where
  status : response.status = 200
  cookie : ∃ value, ("Set-Cookie", value) ∈ response.fields ∧ Renewing site token value

/-- A cookie that can be read back renews the session. -/
theorem renewing_of_readable {now : Instant} (delivers : Delivers site now) (named : token ≠ "")
    {cookie : SetCookie} {text : String} (name : cookie.name = site.security.refreshCookieName)
    (value : cookie.value = token) (written : cookie.text = .ok text) :
    Renewing site token text := by
  have presents (r : Request) (sent : SendsBack r text) : site.presentedToken r = token := by
    unfold presentedToken
    rw [sent, ← name, ← value]
    exact (SetCookie.get_sentBack_iff written (value ▸ named)).mpr (name ▸ delivers.readable)
  refine ⟨presents, fun r σ s asks sent reached stored held live refreshes dated => ?_⟩
  have arrived := site.quiet_arrived σ.world r
  have refreshes' : site.service.Refreshes (site.arrived r σ.world) :=
    ⟨refreshes.found, refreshes.rotated, refreshes.tokenExpiry, refreshes.sessionExpiry,
      refreshes.fresh.anti (Nat.le_refl _) (Nat.le_refl _)⟩
  obtain ⟨accessToken, -, returns, -⟩ := Service.refresh_of_live (w := site.arrived r σ.world)
    reached.keyed (Effect.covers (.of_quiet arrived) reached.covers) (reached.canSign s stored)
    stored (held ▸ named) live refreshes'
  rw [held, ← presents r sent] at returns
  have committed : Committed site r σ.world _ := .refresh asks _ returns
  obtain ⟨-, response, responds, handover⟩ := committed.handover
  cases handover with
  | failed status unfit => exact absurd ⟨dated, delivers.marked, delivers.readable⟩ unfit
  | handed status => exact ⟨response, _, responds, status, committed⟩

/-- A cookie that presents its token has a name that can be read. -/
theorem readable_of_renewing {cookie : SetCookie} {text : String} (named : token ≠ "")
    (name : cookie.name = site.security.refreshCookieName) (value : cookie.value = token)
    (written : cookie.text = .ok text) (renewing : Renewing site token text) :
    SetCookie.Readable site.security.refreshCookieName := by
  have sent : SendsBack (post .refresh [("Cookie", SetCookie.sentBack text)] "") text := by
    have other : Fields.key "Host" ≠ Fields.key "Cookie" := by decide +kernel
    simp [SendsBack, post, Fields.getText, Fields.get?, other]
  have presented := renewing.presents _ sent
  rw [presentedToken, sent, ← name, ← value] at presented
  exact name ▸ (SetCookie.get_sentBack_iff written (value ▸ named)).mp presented

/-- **When a committed session is delivered.** Whenever a login or a refresh has returned, its
session is stored and there is a response, which delivers it exactly if there is a date for the
cookie to expire at and the settings name one of the three words for the sites and a cookie that can
be read back. -/
theorem delivered_iff (committed : Committed site r w token) (named : token ≠ "") :
    (∃ s ∈ (site.respond r w).2.store.sessions, s.refreshToken = token) ∧
    ∃ response, (site.respond r w).1 = .ok response ∧
      (Delivered site token response ↔ Delivers site w.now) ∧
      (response.status = 200 ∨ response.status = 500) := by
  obtain ⟨stored, response, responds, handover⟩ := committed.handover
  refine ⟨stored, response, responds, ?_⟩
  cases handover with
  | failed status unfit =>
    refine ⟨iff_of_false (fun delivered => ?_) unfit, .inr status⟩
    exact absurd (status.symm.trans delivered.status) (by decide)
  | handed status cookie text name value written sole dated marked =>
    refine ⟨⟨fun delivered => ?_, fun delivers => ?_⟩, .inl status⟩
    · obtain ⟨sent, mem, renewing⟩ := delivered.cookie
      obtain rfl := (sole sent).mp mem
      exact ⟨dated, marked, readable_of_renewing named name value written renewing⟩
    · exact ⟨status, text, (sole text).mpr rfl,
        renewing_of_readable delivers named name value written⟩

/-! ## With nothing set, and with no word for the sites -/

set_option maxRecDepth 100000 in
/-- A refresh returns. -/
theorem refreshing_committed : Committed plainSite refreshing visited.world "rr" := by
  have returns : (plainSite.service.refresh (plainSite.presentedToken refreshing)
      (plainSite.arrived refreshing visited.world)).1.toOption.map (·.refreshToken) =
        some "rr" := by
    decide +kernel
  obtain ⟨pair, returns, same⟩ := toOption_map_eq_some.mp returns
  exact same ▸ .refresh refreshing_asks pair returns

set_option maxRecDepth 100000 in
theorem plainSite_delivers : Delivers plainSite visited.world.now where
  dated := by decide +kernel
  marked := by decide +kernel
  readable := by decide +kernel

/-- With nothing set, the session is delivered. -/
theorem visited_delivered : Committed plainSite refreshing visited.world "rr" ∧
    Delivers plainSite visited.world.now ∧
    ∃ response, (plainSite.respond refreshing visited.world).1 = .ok response ∧
      Delivered plainSite "rr" response := by
  obtain ⟨-, response, responds, delivered, -⟩ :=
    delivered_iff refreshing_committed (by decide : "rr" ≠ "")
  exact ⟨refreshing_committed, plainSite_delivers, response, responds,
    delivered.mpr plainSite_delivers⟩

/-- The word for the sites is set to an empty text. -/
def wordless : Settings.Sources where
  process := [("COOKIE_SAMESITE".toList, some [])]
  file := []

/-- The settings that are in force then. -/
def wordlessConfig : Config :=
  { Run.plainConfig with security := { Run.plainConfig.security with cookieSamesite := "" } }

/-- The site made for them. -/
def wordlessSite : Site := { plainSite with security := wordlessConfig.security }

theorem load_wordless : Config.load wordless = .ok (wordlessConfig, "") := by rfl

/-- An account has been opened. -/
def enrolled : Run.State := Run.run wordlessSite.service (Run.start 0 .info) [Run.registering]

/-- A login to it. -/
def entering : Request :=
  post .login [("Content-Type", "application/json")]
    "\x7b\"login\": \"alice\", \"password\": \"Passw0rd!\"\x7d"

set_option maxRecDepth 100000 in
theorem entering_form : formOf entering LoginForm.ofJson = .ok ⟨"alice", "Passw0rd!"⟩ :=
  toOption_eq_some.mp (by decide +kernel)

set_option maxRecDepth 100000 in
theorem entering_committed : Committed wordlessSite entering enrolled.world "r" := by
  have asks : entering.Asks .login :=
    ⟨by decide +kernel, by decide +kernel, by decide +kernel, by decide⟩
  have returns : (wordlessSite.service.login "alice" "Passw0rd!"
      (entering.fields.getText "User-Agent") (some entering.clientAddress)
      (wordlessSite.arrived entering enrolled.world)).1.toOption.map (·.refreshToken) =
        some "r" := by
    decide +kernel
  obtain ⟨a, returns, same⟩ := toOption_map_eq_some.mp returns
  exact same ▸ .login asks ⟨"alice", "Passw0rd!"⟩ entering_form a returns

/-- **Without a word for the sites a session is lost on the way**: the settings are accepted, the
site is made, the login returns and has stored its session, and the response is an internal
error. -/
theorem wordless_undelivered : Config.load wordless = .ok (wordlessConfig, "") ∧
    Service.make wordlessConfig "pbkdf2:sha256:1" "decoy" (Run.sample 900).supply =
      .ok wordlessSite.service ∧
    Site.make wordlessConfig wordlessSite.service "fresh" = .ok wordlessSite ∧
    Reached wordlessSite enrolled ∧ Committed wordlessSite entering enrolled.world "r" ∧
    (∃ s ∈ (wordlessSite.respond entering enrolled.world).2.store.sessions,
      s.refreshToken = "r") ∧
    ∃ response, (wordlessSite.respond entering enrolled.world).1 = .ok response ∧
      response.status = 500 := by
  obtain ⟨stored, response, responds, handover⟩ := entering_committed.handover
  refine ⟨load_wordless, Run.make_plain, rfl, .of_run (.start 0 .info) [Run.registering],
    entering_committed, stored, response, responds, ?_⟩
  cases handover with
  | failed status unfit => exact status
  | handed _ _ _ _ _ _ _ _ marked => exact absurd marked (by decide +kernel)

end Http.Site
end LoginGate
