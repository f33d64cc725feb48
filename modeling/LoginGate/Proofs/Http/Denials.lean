import LoginGate.Proofs.Http.Frame

/-!
# Proofs/Http/Denials — a denial does not say why

A response is made of a failure and of the request's own fields. Of a denial nothing is left in it
but that it is one (`failureResponse_denied`), and of the request no more than the origin it names
and whether it asks about private networks. So two denials look alike, whatever has led to them and
whatever is stored. A log-out says as little: it ends in the same response whether or not there was
a session to end.
-/

namespace LoginGate

namespace Http

/-! ## What a response owes to the request -/

/-- Away from preflights, the fields about origins depend on the origin that is named and on whether
private networks are asked about. -/
theorem Origin.fields_congr (policy : Origin.Policy) {m₁ m₂ : String} {f₁ f₂ : Fields}
    (actual₁ : m₁ ≠ "OPTIONS") (actual₂ : m₂ ≠ "OPTIONS")
    (origin : f₁.getText "Origin" = f₂.getText "Origin")
    (network : f₁.getText "Access-Control-Request-Private-Network" = "true" ↔
      f₂.getText "Access-Control-Request-Private-Network" = "true") :
    Origin.fields policy m₁ f₁ = Origin.fields policy m₂ f₂ := by
  unfold Origin.fields Origin.preflight
  simp [actual₁, actual₂, origin, network]

/-- The path of an endpoint belongs to the interface, but for the state of health and the files. -/
theorem isShared_path {e : Endpoint} (health : e ≠ .health) (file : e ≠ .file) :
    Site.isShared e.path = true := by
  cases e with
  | health => exact absurd rfl health
  | file => exact absurd rfl file
  | register | login | refresh | logout | logoutAll | me => decide +kernel

namespace Site

variable {site : Site} {r : Request} {w : World}

/-! ## How an exchange is denied -/

/-- A refresh of a session that is found in some way. -/
def refreshFrom (site : Site) (find : Act Session) (r : Request) : Act Response :=
  if site.presentedToken r = "" then Act.fail (.denied .missingRefreshToken)
  else site.service.refreshFrom find (site.presentedToken r) >>= site.renewed

theorem refresh_eq_refreshFrom (site : Site) (r : Request) :
    site.refresh r = site.refreshFrom (Service.lookUp (site.presentedToken r)) r := rfl

/-- **An exchange that has been overtaken**: its session has been read some time ago, and others
have come before it is completed. -/
def respondOvertaken (site : Site) (old : Session) (r : Request) : Act Response :=
  site.exchange r do
    let response ← site.rescue r (site.refreshFrom (pure old) r)
    return (response, none)

theorem respondOvertaken_apply (site : Site) (old : Session) (r : Request) (w : World) : ∃ w',
    site.respondOvertaken old r w = (.ok (site.finish r
      (shown (site.refreshFrom (pure old) r (site.arrived r w)).1)), w') := by
  obtain ⟨w₁, rescued, -⟩ :=
    site.rescue_apply r (site.arrived r w) (site.refreshFrom (pure old) r)
  obtain ⟨w', exchanged, -⟩ := site.exchange_apply w
    (do
      let response ← site.rescue r (site.refreshFrom (pure old) r)
      return (response, none))
    (by rw [Act.bind_eq_resume, rescued]; rfl)
  exact ⟨w', exchanged⟩

/-- **What an exchange has come to**, and the response that tells of it. -/
inductive Answered (site : Site) (r : Request) (w : World) (outcome : Except Failure Response)
    (response : Response) : Prop where
  | whole (e : Endpoint) (asks : r.Asks e)
    (answers : (site.answer e r (site.arrived r w)).1 = outcome)
    (responds : (site.respond r w).1 = .ok response)
  | overtaken (old : Session) (asks : r.Asks .refresh)
    (answers : (site.refreshFrom (pure old) r (site.arrived r w)).1 = outcome)
    (responds : (site.respondOvertaken old r w).1 = .ok response)

/-- **An exchange ends in a denial**, for some reason. -/
def Denied (site : Site) (r : Request) (w : World) (response : Response) : Prop :=
  ∃ reason, Answered site r w (.error (.denied reason)) response

/-- The response of an exchange is what clients see of its outcome. -/
theorem Answered.response_eq {outcome : Except Failure Response} {response : Response}
    (h : Answered site r w outcome response) : response = site.finish r (shown outcome) := by
  cases h with
  | whole e asks answers responds =>
    obtain ⟨w', responds', -⟩ := site.respond_of_asks w asks
    rw [responds', answers] at responds
    exact (Except.ok.inj responds).symm
  | overtaken old asks answers responds =>
    obtain ⟨w', responds'⟩ := site.respondOvertaken_apply old r w
    rw [responds', answers] at responds
    exact (Except.ok.inj responds).symm

/-- The endpoint of an exchange that fails is one of the interface. -/
theorem Answered.isShared {f : Failure} {response : Response}
    (h : Answered site r w (.error f) response) : Site.isShared r.path = true := by
  have of_asks {e : Endpoint} (asks : r.Asks e) (health : e ≠ .health) (file : e ≠ .file) :
      Site.isShared r.path = true := by
    rw [asks.path_eq file]
    exact isShared_path health file
  cases h with
  | whole e asks answers responds =>
    refine of_asks asks ?_ ?_
    · rintro rfl
      exact nomatch answers
    · rintro rfl
      exact nomatch answers
  | overtaken old asks => exact of_asks asks nofun nofun

/-- **Of a denial clients see that it is one.** -/
theorem failureResponse_denied (reason : Denial) : failureResponse (.denied reason) =
    .json 401 (.object [("error", .text "unauthorized")]) := rfl

/-! ## Endpoints for callers -/

theorem caller_fst (site : Site) (r : Request) (w : World) : (site.caller r w).1 =
    if r.fields.bearer = "" then .error (.denied .missingToken)
    else (site.service.verify r.fields.bearer w).1 := by
  rw [caller_eq]
  split <;> rfl

/-- A document is refused for being nested too deep, and for nothing else. -/
theorem document_eq_error {f : Failure} (h : r.document = .error f) : f = .tooDeep := by
  unfold Request.document at h
  split at h
  · exact nomatch h
  · exact (Except.error.inj h).symm
  · exact nomatch h

/-- A form that cannot be read is no denial. -/
theorem formOf_ne_denied {α : Type} (r : Request) (read : Json → Checked α) (reason : Denial) :
    formOf r read ≠ .error (.denied reason) := by
  intro h
  cases document : r.document with
  | error f =>
    simp only [formOf, document, bind, Except.bind] at h
    obtain rfl := Except.error.inj h
    cases document_eq_error document
  | ok doc =>
    simp only [formOf, document, bind, Except.bind] at h
    cases form : read doc with
    | error errors =>
      rw [form] at h
      cases Except.error.inj h
    | ok a =>
      rw [form] at h
      cases h

/-- A log-out fails if the storage does not answer, and for no other reason. -/
theorem logout_fst (user session : Uuid) (w : World) : (Service.logout user session w).1 =
    if w.faultIn = 1 then .error Call.deleteSession.unanswered else .ok () := by
  unfold Service.logout
  rw [Act.bind_eq_resume]
  refine Store.removeSession_induct (P := fun p => (Act.resume _ p).1 = _) ?_ ?_
  · exact fun w' fault _ => (if_pos fault).symm
  · exact fun w' answers _ => (if_neg answers).symm

theorem logoutAll_fst (user : Uuid) (w : World) : (Service.logoutAll user w).1 =
    if w.faultIn = 1 then .error Call.deleteAllSessions.unanswered else .ok () := by
  unfold Service.logoutAll
  rw [Act.bind_eq_resume]
  refine Store.removeSessions_induct (P := fun p => (Act.resume _ p).1 = _) ?_ ?_
  · exact fun w' fault _ => (if_pos fault).symm
  · exact fun w' answers _ => (if_neg answers).symm

/-- **What a log-out is answered with** depends on its form, and on whether the storage answers. -/
theorem answer_logout_fst (caller : Uuid) (r : Request) (w : World) : (logout caller r w).1 =
    (formOf r LogoutForm.ofJson).bind fun _ =>
      if w.faultIn = 1 then .error Call.deleteSession.unanswered else .ok (.empty 204 []) := by
  rw [logout_eq, Act.bind_eq_resume, Act.ofExcept_apply]
  cases formOf r LogoutForm.ofJson with
  | error f => rfl
  | ok f =>
    rw [Act.resume_ok, Act.bind_pure_fst, logout_fst]
    change Except.map _ _ = ite _ _ _
    split <;> rfl

theorem answer_logoutAll_fst (site : Site) (caller : Uuid) (w : World) :
    (site.logoutAll caller w).1 =
      if w.faultIn = 1 then .error Call.deleteAllSessions.unanswered
      else site.clearedCookie.map fun cookie => .empty 204 [cookie] := by
  have fst := logoutAll_fst caller w
  unfold logoutAll
  rw [Act.bind_eq_resume]
  generalize Service.logoutAll caller w = p at fst ⊢
  by_cases fault : w.faultIn = 1
  · rw [if_pos fault] at fst ⊢
    rcases p with ⟨f | u, w'⟩
    · exact congrArg Except.error (Except.error.inj fst)
    · exact nomatch fst
  · rw [if_neg fault] at fst ⊢
    rcases p with ⟨f | u, w'⟩
    · exact nomatch fst
    · rw [Act.resume_ok, Act.bind_eq_resume, Act.ofExcept_apply]
      cases site.clearedCookie with
      | error f => rfl
      | ok cookie => rfl

/-- A cookie that cannot be written is no denial. -/
theorem clearedCookie_ne_denied (site : Site) (reason : Denial) :
    site.clearedCookie ≠ .error (.denied reason) := by
  unfold clearedCookie SetCookie.text
  simp only
  split <;> exact nofun

/-- **Past the caller nothing is denied.** -/
theorem answerCaller_ne_denied (site : Site) (e : Endpoint) (caller : Uuid) (r : Request)
    (w : World) (reason : Denial) :
    (site.answerCaller e caller r w).1 ≠ .error (.denied reason) := by
  intro h
  cases e with
  | register | login | refresh | me | health | file => exact nomatch h
  | logout =>
    have h := (answer_logout_fst caller r w).symm.trans h
    cases form : formOf r LogoutForm.ofJson with
    | error f =>
      rw [form] at h
      exact formOf_ne_denied r _ reason (form.trans (congrArg Except.error (Except.error.inj h)))
    | ok f =>
      rw [form] at h
      change ite _ _ _ = _ at h
      split at h
      · exact nomatch h
      · exact nomatch h
  | logoutAll =>
    have h := (answer_logoutAll_fst site caller w).symm.trans h
    split at h
    · exact nomatch h
    · cases cookie : site.clearedCookie with
      | error f =>
        rw [cookie] at h
        exact clearedCookie_ne_denied site reason
          (cookie.trans (congrArg Except.error (Except.error.inj h)))
      | ok c =>
        rw [cookie] at h
        exact nomatch h

/-- Where there has to be a caller, a denial is one of the caller. -/
theorem answer_denied_iff {e : Endpoint} (needs : e.needsCaller = true) (r : Request) (w : World)
    (reason : Denial) : (site.answer e r w).1 = .error (.denied reason) ↔
      (site.caller r w).1 = .error (.denied reason) := by
  rw [answer_of_needsCaller site r w needs]
  rcases site.caller r w with ⟨f | caller, w'⟩
  · have same {α β : Type} (h : (Except.error f : Except Failure α) = .error (.denied reason)) :
        (Except.error f : Except Failure β) = .error (.denied reason) :=
      congrArg Except.error (Except.error.inj h)
    exact ⟨same, same⟩
  · exact iff_of_false (answerCaller_ne_denied site e caller r w' reason) nofun

/-- The caller of a request is not looked for in its body. -/
theorem caller_arrived (site : Site) (r : Request) (w : World) :
    (site.caller r (site.arrived r w)).1 = (site.caller r w).1 := by
  rw [caller_fst, caller_fst, verify_arrived]

/-- Where there has to be a caller, a denied request is denied whatever its body is. -/
theorem Denied.of_body {e : Endpoint} {response : Response} (needs : e.needsCaller = true)
    (asks : r.Asks e) (h : Denied site r w response) (body : List UInt8) :
    Denied site { r with body } w response := by
  obtain ⟨reason, answered⟩ := h
  have response_eq := answered.response_eq
  cases answered with
  | overtaken old asks' =>
    obtain rfl := Route.found.inj (asks.routed.symm.trans asks'.routed)
    exact nomatch needs
  | whole e' asks' answers responds =>
    obtain rfl := Route.found.inj (asks.routed.symm.trans asks'.routed)
    have asks' : Request.Asks { r with body } e :=
      ⟨asks.host, asks.plain, asks.routed, asks.actual⟩
    have denied := (answer_denied_iff needs r _ reason).mp answers
    rw [caller_arrived] at denied
    have denied' : (site.answer e { r with body } (site.arrived { r with body } w)).1 =
        .error (.denied reason) := by
      rw [answer_denied_iff needs, caller_arrived]
      exact denied
    obtain ⟨w', responds', -⟩ := site.respond_of_asks w asks'
    refine ⟨reason, .whole e asks' denied' ?_⟩
    rw [responds', denied', response_eq]
    rfl

/-- A log-out by a caller, with a form that can be read, ends in the same response whatever sessions
there are. -/
theorem respond_logout (asks : r.Asks .logout) (bearer : r.fields.bearer ≠ "") {user : Uuid}
    (accepted : (site.service.verify r.fields.bearer w).1 = .ok user) {f : LogoutForm}
    (form : formOf r LogoutForm.ofJson = .ok f) :
    (site.respond r w).1 = .ok (site.finish r (if w.faultIn = 2 then
      failureResponse Call.deleteSession.unanswered else .empty 204 [])) := by
  obtain ⟨w', responds, -⟩ := site.respond_of_asks w asks
  rw [responds, answer_of_needsCaller site r _ rfl, caller_eq, if_neg bearer]
  rw [← verify_arrived site r w] at accepted
  have ends := Service.verifyEnd site.service r.fields.bearer (site.arrived r w)
  generalize site.service.verify r.fields.bearer (site.arrived r w) = p at accepted ends ⊢
  cases ends with
  | refused => exact nomatch accepted
  | @accepted v u signed answers known free after fault =>
    have second : v.faultIn = 1 ↔ w.faultIn = 2 := by
      have fault : v.faultIn = w.faultIn - 1 := fault
      omega
    rw [Act.resume_ok]
    change Except.ok (site.finish r (shown (logout u.id r v).1)) = _
    rw [answer_logout_fst, form]
    simp only [Except.bind, second]
    split <;> rfl

/-! ## No oracle -/

/-- **What a site keeps to itself.** -/
structure Discreet (site : Site) : Prop where
  /-- Two denials look alike, if the requests name the same origin and agree on whether they ask
  about private networks. -/
  alike : ∀ {w₁ w₂ : World} {r₁ r₂ : Request} {a₁ a₂ : Response},
    Denied site r₁ w₁ a₁ → Denied site r₂ w₂ a₂ → r₁.method ≠ "HEAD" → r₂.method ≠ "HEAD" →
    r₁.fields.getText "Origin" = r₂.fields.getText "Origin" →
    (r₁.fields.getText "Access-Control-Request-Private-Network" = "true" ↔
      r₂.fields.getText "Access-Control-Request-Private-Network" = "true") → a₁ = a₂
  /-- A denial says that it is one, and sets no cookie. -/
  blank : ∀ {w : World} {r : Request} {a : Response}, Denied site r w a → r.method ≠ "HEAD" →
    a.status = 401 ∧ a.body = .json (.object [("error", .text "unauthorized")]) ∧
      ∀ value, ("Set-Cookie", value) ∉ a.fields
  /-- Where there has to be a caller, a body makes no difference to a denial. -/
  bodies : ∀ {w : World} {r : Request} {e : Endpoint} {a : Response}, e.needsCaller = true →
    r.Asks e → Denied site r w a → ∀ body, Denied site { r with body } w a
  /-- A log-out of a session does not tell whether there is one, or whose. -/
  logouts : ∀ {w : World} {r : Request} {user : Uuid} {f : LogoutForm}, r.Asks .logout →
    r.fields.bearer ≠ "" → (site.service.verify r.fields.bearer w).1 = .ok user →
    formOf r LogoutForm.ofJson = .ok f →
    (site.respond r w).1 = .ok (site.finish r
      (if w.faultIn = 2 then failureResponse Call.deleteSession.unanswered else .empty 204 []))

/-- **No response is an oracle**, wherever a site has got to. -/
theorem discreet (site : Site) : Discreet site := by
  have actual {r : Request} {w : World} {a : Response} (h : Denied site r w a) :
      r.method ≠ "OPTIONS" := by
    obtain ⟨reason, ⟨e, asks, -, -⟩ | ⟨old, asks, -, -⟩⟩ := h
    · exact asks.actual
    · exact asks.actual
  have fields {r : Request} {w : World} {a : Response} (h : Denied site r w a)
      (head : r.method ≠ "HEAD") :
      a = (Response.json 401 (.object [("error", .text "unauthorized")])).adding
        (safetyFields ++ Origin.fields site.origins r.method r.fields) := by
    obtain ⟨reason, answered⟩ := h
    rw [answered.response_eq]
    unfold finish frameFields
    rw [if_neg head, answered.isShared, if_pos rfl]
    rfl
  constructor
  · intro w₁ w₂ r₁ r₂ a₁ a₂ h₁ h₂ head₁ head₂ origin network
    rw [fields h₁ head₁, fields h₂ head₂,
      Origin.fields_congr site.origins (actual h₁) (actual h₂) origin network]
  · intro w r a h head
    refine ⟨fields h head ▸ rfl, fields h head ▸ rfl, fun value mem => ?_⟩
    obtain ⟨reason, answered⟩ := h
    rw [answered.response_eq, setCookie_mem_finish_iff site (actual ⟨reason, answered⟩)] at mem
    simp [shown, failureResponse_denied, Response.json] at mem
  · exact fun needs asks h body => h.of_body needs asks body
  · exact fun asks bearer accepted form => respond_logout asks bearer accepted form

/-- The reason of an outcome that is a denial. -/
def reason? : Except Failure Response → Option Denial
  | .error (.app (.authentication reason)) => some reason
  | _ => none

theorem eq_denied_of_reason? {outcome : Except Failure Response} {reason : Denial}
    (h : reason? outcome = some reason) : outcome = .error (.denied reason) := by
  unfold reason? at h
  split at h
  · exact congrArg _ (congrArg Failure.denied (Option.some.inj h))
  · exact nomatch h

/-- A request that is denied by its endpoint has been denied. -/
theorem denied_of_reason? (site : Site) {e : Endpoint} {reason : Denial} (asks : r.Asks e)
    (h : reason? (site.answer e r (site.arrived r w)).1 = some reason) :
    ∃ response, Denied site r w response := by
  obtain ⟨w', responds, -⟩ := site.respond_of_asks w asks
  exact ⟨_, reason, .whole e asks (eq_denied_of_reason? h) (congrArg Prod.fst responds)⟩

theorem denied_of_overtaken (site : Site) (old : Session) {reason : Denial}
    (asks : r.Asks .refresh)
    (h : reason? (site.refreshFrom (pure old) r (site.arrived r w)).1 = some reason) :
    ∃ response, Denied site r w response := by
  obtain ⟨w', responds⟩ := site.respondOvertaken_apply old r w
  exact ⟨_, reason, .overtaken old asks (eq_denied_of_reason? h) (congrArg Prod.fst responds)⟩

/-- A login with a wrong password. -/
def guessing : Request :=
  post .login [("Content-Type", "application/json")]
    "\x7b\"login\": \"alice\", \"password\": \"guess\"\x7d"

/-- Another refresh has come first. -/
def overtaken : World := (plainSite.respond refreshing visited.world).2

set_option maxRecDepth 100000 in
theorem guessing_reason : guessing.Asks .login ∧
    reason? (plainSite.answer .login guessing (plainSite.arrived guessing visited.world)).1 =
      some .invalidCredentials :=
  ⟨⟨by decide +kernel, by decide +kernel, by decide +kernel, by decide⟩, by decide +kernel⟩

set_option maxRecDepth 100000 in
theorem refreshing_reason : reason? (plainSite.refreshFrom (pure Run.firstSession) refreshing
    (plainSite.arrived refreshing overtaken)).1 = some .invalidSession := by
  decide +kernel

/-- A wrong password and a refresh that has lost the race get one response. -/
theorem guessing_alike : ∃ a, Denied plainSite guessing visited.world a ∧
    Denied plainSite refreshing overtaken a ∧ a.status = 401 ∧
    ∀ value, ("Set-Cookie", value) ∉ a.fields := by
  obtain ⟨asks₁, reason₁⟩ := guessing_reason
  obtain ⟨a₁, denied₁⟩ := denied_of_reason? plainSite asks₁ reason₁
  obtain ⟨a₂, denied₂⟩ :=
    denied_of_overtaken plainSite Run.firstSession refreshing_asks refreshing_reason
  have same := (discreet plainSite).alike denied₁ denied₂ (by decide) (by decide)
    (by decide +kernel) (by decide +kernel)
  obtain ⟨status, -, cookie⟩ := (discreet plainSite).blank denied₁ (by decide)
  exact ⟨a₁, denied₁, same ▸ denied₂, status, cookie⟩

/-- A refresh without a token. -/
def tokenless (fields : Fields) : Request := post .refresh fields ""

/-- Only the second asks about private networks. -/
def curious : Request := tokenless [("Access-Control-Request-Private-Network", "true")]

set_option maxRecDepth 100000 in
theorem tokenless_reason : (tokenless []).Asks .refresh ∧ curious.Asks .refresh ∧
    ∀ r ∈ [tokenless [], curious],
      reason? (plainSite.answer .refresh r (plainSite.arrived r (Run.start 0 .info).world)).1 =
        some .missingRefreshToken :=
  ⟨⟨by decide +kernel, by decide +kernel, by decide +kernel, by decide⟩,
    ⟨by decide +kernel, by decide +kernel, by decide +kernel, by decide⟩, by decide +kernel⟩

/-- **Asking about private networks shows**: two refreshes without a token name the same origin, and
one of them is told more than that it is denied. -/
theorem curious_told : Site.make Run.plainConfig Run.plain "fresh" = .ok plainSite ∧
    Reached plainSite (Run.start 0 .info) ∧ ∃ a₁ a₂,
      Denied plainSite (tokenless []) (Run.start 0 .info).world a₁ ∧
      Denied plainSite curious (Run.start 0 .info).world a₂ ∧
      (tokenless []).fields.getText "Origin" = curious.fields.getText "Origin" ∧ a₁ ≠ a₂ := by
  obtain ⟨asks₁, asks₂, reasons⟩ := tokenless_reason
  obtain ⟨a₁, reason₁, answered₁⟩ :=
    denied_of_reason? plainSite asks₁ (reasons _ List.mem_cons_self)
  obtain ⟨a₂, reason₂, answered₂⟩ :=
    denied_of_reason? plainSite asks₂ (reasons _ (List.mem_cons_of_mem _ List.mem_cons_self))
  refine ⟨rfl, .start 0 .info, a₁, a₂, ⟨reason₁, answered₁⟩, ⟨reason₂, answered₂⟩,
    by decide +kernel, ?_⟩
  rw [answered₁.response_eq, answered₂.response_eq]
  intro same
  have told : (plainSite.finish curious (failureResponse (.denied reason₂))).fields.length ≠
      (plainSite.finish (tokenless []) (failureResponse (.denied reason₁))).fields.length := by
    rw [failureResponse_denied, failureResponse_denied]
    decide +kernel
  exact told (congrArg (fun a : Response => a.fields.length) same.symm)

end Site
end Http
end LoginGate
