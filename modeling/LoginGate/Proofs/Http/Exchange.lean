import LoginGate.Http.Site
import LoginGate.Proofs.Act
import Mathlib.Tactic.SplitIfs

/-!
# Proofs/Http/Exchange — an exchange is the answer of an endpoint, or none

Around the answer of an endpoint there is nothing that fails and nothing that touches the tables: a
request is logged and routed, a failure is made a response, and the response is logged and given the
fields that depend on the request alone. So an exchange is what the endpoint answers (`answer`) if
the request gets as far as one (`Asks`), and the same page in every world if it does not.
-/

namespace LoginGate.Http

/-- **A request gets as far as an endpoint.** Its host can be one, no socket is asked for, the path
is the endpoint's and takes the method, and it is more than a question for the methods taken. -/
structure Request.Asks (r : Request) (e : Endpoint) : Prop where
  host : r.hasGoodHost = true
  plain : r.asksForSocket = false
  routed : Route.of r.method r.path = .found e
  actual : r.method ≠ "OPTIONS"

/-- A request is a post to the path of an endpoint. -/
structure Request.Posts (r : Request) (e : Endpoint) : Prop where
  method_eq : r.method = "POST"
  path_eq : r.path = e.path

namespace Request.Asks

variable {r : Request} {e : Endpoint}

/-- What routing has looked at. -/
theorem found (h : r.Asks e) :
    e.isAt r.path.toList = true ∧ r.method ∈ e.methods := by
  have routed := h.routed
  unfold Route.of at routed
  split at routed
  · next e' at_ =>
    split at routed
    · next takes =>
      obtain rfl := Route.found.inj routed
      exact ⟨List.find?_some (p := (Endpoint.isAt · r.path.toList)) at_, by simpa using takes⟩
    · exact nomatch routed
  · split at routed
    · split at routed <;> exact nomatch routed
    · exact nomatch routed

/-- The path is the endpoint's, unless it is that of a file. -/
theorem path_eq (h : r.Asks e) (file : e ≠ .file) : r.path = e.path := by
  obtain ⟨at_, -⟩ := h.found
  cases e with
  | file => exact absurd rfl file
  | register | login | refresh | logout | logoutAll | me | health =>
    exact String.toList_injective (by simpa [Endpoint.isAt] using at_)

/-- Only a post gets as far as an endpoint that takes nothing else. -/
theorem posts (h : r.Asks e) (takes : e.methods = ["OPTIONS", "POST"]) : r.Posts e := by
  obtain ⟨-, method⟩ := h.found
  rw [takes] at method
  constructor
  · simpa [h.actual] using method
  · refine h.path_eq ?_
    rintro rfl
    exact nomatch takes

end Request.Asks

/-- None of the fields about origins is a cookie. -/
theorem Origin.setCookie_notMem_fields (policy : Origin.Policy) {method : String} (request : Fields)
    (actual : method ≠ "OPTIONS") (value : String) :
    ("Set-Cookie", value) ∉ Origin.fields policy method request := by
  unfold Origin.fields Origin.preflight
  cases Origin.named? policy (request.getText "Origin") with
  | none => exact List.not_mem_nil
  | some name =>
    simp only [actual, decide_false, Bool.false_and, Bool.false_eq_true, if_false]
    split_ifs <;> simp

namespace Site

variable (site : Site) (e : Endpoint) (r : Request) (w : World)

/-- **The answer of an endpoint**; where it is for callers, the caller is asked for first. -/
def answer : Act Response :=
  if e.needsCaller then site.caller r >>= fun caller => site.answerCaller e caller r
  else site.answerAnyone e r

/-- The form that a request brings, or what it is refused with. -/
def formOf {α : Type} (r : Request) (read : Json → Checked α) : Except Failure α := do
  let doc ← r.document
  (read doc).mapError fun errors => .app (.ofFields errors)

/-- A form is read before anything else is done. -/
theorem form_bind {α β : Type} (r : Request) (read : Json → Checked α) (f : α → Act β) :
    (Act.ofExcept r.document >>= fun doc => form (read doc) >>= f) =
      Act.ofExcept (formOf r read) >>= f := by
  funext w
  simp only [Act.bind_eq_resume, Act.ofExcept_apply, formOf]
  cases r.document with
  | error e => rfl
  | ok doc =>
    change Act.resume f (form (read doc) w) = Act.resume f ((read doc).mapError _, w)
    cases read doc <;> rfl

/-- What clients see of an answer, or of there being none. -/
def shown : Except Failure Response → Response
  | .ok response => response
  | .error e => failureResponse e

theorem answer_of_needsCaller {e : Endpoint} (h : e.needsCaller = true) :
    site.answer e r w =
      Act.resume (fun caller => site.answerCaller e caller r) (site.caller r w) := by
  rw [answer, if_pos h]
  rfl

/-! ## What an endpoint does

A form is read, then the service is asked, and its result is turned into a response. -/

/-- The response to a login: the refresh token goes into a cookie. -/
def admitted (a : Admission) : Act Response := do
  let cookie ← Act.atNow (site.refreshCookie a.refreshToken)
  return (Response.json 200 (.object [("user_id", .text a.user.text),
    ("access_token", .text a.accessToken), ("session_id", .text a.session.text)])).adding [cookie]

/-- The response to a refresh. -/
def renewed (pair : TokenPair) : Act Response := do
  let cookie ← Act.atNow (site.refreshCookie pair.refreshToken)
  return (Response.json 200 (.object [("access_token", .text pair.accessToken)])).adding [cookie]

theorem register_eq : site.register r = Act.ofExcept (formOf r RegisterForm.ofJson) >>= fun f =>
    site.service.register f.username f.email f.password >>= fun id =>
      pure (.json 201 (.object [("user_id", .text id.text)])) :=
  form_bind r _ _

theorem login_eq : site.login r = Act.ofExcept (formOf r LoginForm.ofJson) >>= fun f =>
    site.service.login f.login f.password (r.fields.getText "User-Agent") (some r.clientAddress) >>=
      site.admitted :=
  form_bind r _ _

theorem refresh_eq : site.refresh r =
    if site.presentedToken r = "" then Act.fail (.denied .missingRefreshToken)
    else site.service.refresh (site.presentedToken r) >>= site.renewed := rfl

theorem logout_eq (caller : Uuid) : logout caller r =
    Act.ofExcept (formOf r LogoutForm.ofJson) >>= fun f =>
      Service.logout caller f.sessionId >>= fun _ => pure (.empty 204 []) :=
  form_bind r _ _

theorem caller_eq : site.caller r =
    if r.fields.bearer = "" then
      Act.log .warning ("No Authorization header on " ++ r.line) >>= fun _ =>
        Act.fail (.denied .missingToken)
    else site.service.verify r.fields.bearer := rfl

/-- A cookie is made or not, and nothing is touched by it. -/
theorem isQuiet_admitted (a : Admission) : (site.admitted a).IsQuiet :=
  (Act.isQuiet_atNow _).bind fun _ => Act.isQuiet_pure _

theorem isQuiet_renewed (pair : TokenPair) : (site.renewed pair).IsQuiet :=
  (Act.isQuiet_atNow _).bind fun _ => Act.isQuiet_pure _

/-! ## A failure becomes a response -/

/-- Nothing is in the way of explaining a failure, and nothing is touched by it. -/
theorem explain_apply (f : Failure) :
    ∃ w', site.explain r f w = (.ok (failureResponse f), w') ∧ w.Quiet w' := by
  unfold explain
  cases site.failureNote r f with
  | none => exact ⟨w, rfl, .refl w⟩
  | some note => exact ⟨_, rfl, w.quiet_log note.1 note.2⟩

theorem rescue_apply (act : Act Response) :
    ∃ w', site.rescue r act w = (.ok (shown (act w).1), w') ∧ (act w).2.Quiet w' := by
  unfold rescue
  rw [Act.orElse_eq_recover]
  rcases act w with ⟨f | response, w'⟩
  · exact site.explain_apply r w' f
  · exact ⟨w', rfl, .refl w'⟩

/-! ## From the answer to the exchange -/

variable {e r}

/-- **A visit is the answer of the endpoint.** -/
theorem visit_apply (actual : r.method ≠ "OPTIONS") : ∃ caller w',
    site.visit e r w = (.ok (shown (site.answer e r w).1, caller), w') ∧
      (site.answer e r w).2.Quiet w' := by
  unfold visit answer
  rw [if_neg actual]
  split
  · -- the caller is asked for outside of the rescue, and a denial of it is explained on its own
    rw [Act.orElse_eq_recover, Act.bind_eq_resume, Act.bind_eq_resume]
    rcases site.caller r w with ⟨f | caller, w₁⟩
    · simp only [Act.resume_error, Act.recover_error]
      rw [Act.bind_eq_resume]
      obtain ⟨w', explained, quiet⟩ := site.explain_apply r w₁ f
      rw [explained]
      exact ⟨none, w', rfl, quiet⟩
    · simp only [Act.resume_ok]
      rw [Act.bind_eq_resume]
      obtain ⟨w', rescued, quiet⟩ := site.rescue_apply r w₁ (site.answerCaller e caller r)
      rw [rescued]
      exact ⟨some caller, w', rfl, quiet⟩
  · rw [Act.bind_eq_resume]
    obtain ⟨w', rescued, quiet⟩ := site.rescue_apply r w (site.answerAnyone e r)
    rw [rescued]
    exact ⟨none, w', rfl, quiet⟩

theorem dispatch_of_asks (asks : r.Asks e) : site.dispatch r = site.visit e r := by
  unfold dispatch
  simp [asks.host, asks.routed, asks.plain]

/-- A request that gets to no endpoint is turned away with a page, whatever the world. -/
theorem dispatch_of_not_asks (unasked : ∀ e, ¬ r.Asks e) :
    ∃ response, ∀ w, site.dispatch r w = (.ok (response, none), w) := by
  unfold dispatch
  cases host : r.hasGoodHost with
  | false => exact ⟨_, fun _ => rfl⟩
  | true =>
  simp only [Bool.not_true, Bool.false_eq_true, if_false]
  cases routed : Route.of r.method r.path with
  | redirect | wrongMethod | unknown => exact ⟨_, fun _ => rfl⟩
  | found e =>
  cases plain : r.asksForSocket with
  | true => exact ⟨_, fun _ => rfl⟩
  | false =>
  by_cases actual : r.method = "OPTIONS"
  · refine ⟨.empty 200 [("Allow", ", ".intercalate e.methods)], fun _ => ?_⟩
    simp only [Bool.false_eq_true, if_false, visit, if_pos actual]
    rfl
  · exact absurd ⟨host, plain, routed, actual⟩ (unasked e)

/-- The world in which a request is dispatched: its arrival has been logged. -/
def arrived (r : Request) (w : World) : World :=
  let brought := r.fields.getText "X-Request-ID"
  let id := if brought = "" then site.freshCorrelation else brought
  { w with sink := w.sink.correlate (some id) }.log .info (site.arrival r)

theorem quiet_arrived (r : Request) : w.Quiet (site.arrived r w) :=
  ⟨rfl, rfl, rfl, rfl, Nat.le_refl _⟩

/-- What is around a dispatch. -/
def exchange (r : Request) (dispatched : Act (Response × Option Uuid)) : Act Response := do
  let brought := r.fields.getText "X-Request-ID"
  Act.correlate (some (if brought = "" then site.freshCorrelation else brought))
  Act.log .info (site.arrival r)
  let (response, caller) ← dispatched
  Act.log .info (departure r response caller)
  Act.correlate none
  return site.finish r response

theorem respond_eq_exchange (r : Request) :
    site.respond r = site.exchange r (site.dispatch r) := rfl

theorem exchange_apply (dispatched : Act (Response × Option Uuid)) {response : Response}
    {caller : Option Uuid} {w₁ : World}
    (h : dispatched (site.arrived r w) = (.ok (response, caller), w₁)) :
    ∃ w', site.exchange r dispatched w = (.ok (site.finish r response), w') ∧ w₁.Quiet w' := by
  let logged := w₁.log .info (departure r response caller)
  refine ⟨{ logged with sink := logged.sink.correlate none }, ?_, rfl, rfl, rfl, rfl, Nat.le_refl _⟩
  change Act.resume _ (dispatched (site.arrived r w)) = _
  rw [h]
  rfl

/-- **An exchange is the answer of the endpoint that is asked.** -/
theorem respond_of_asks (asks : r.Asks e) : ∃ w',
    site.respond r w =
      (.ok (site.finish r (shown (site.answer e r (site.arrived r w)).1)), w') ∧
    (site.answer e r (site.arrived r w)).2.Quiet w' := by
  obtain ⟨caller, w₁, visited, quiet⟩ :=
    site.visit_apply (e := e) (site.arrived r w) asks.actual
  rw [← site.dispatch_of_asks asks] at visited
  obtain ⟨w', exchanged, quiet'⟩ := site.exchange_apply w _ visited
  rw [respond_eq_exchange]
  exact ⟨w', exchanged, quiet.quiet quiet'⟩

/-- A response keeps its fields on its way, and gets those of its frame. -/
theorem fields_finish (r : Request) (response : Response) :
    (site.finish r response).fields = response.fields ++ site.frameFields r := by
  unfold finish
  simp only
  split <;> rfl

/-- What is added to a response on its way is no cookie. -/
theorem setCookie_mem_finish_iff {response : Response} (actual : r.method ≠ "OPTIONS")
    (value : String) : ("Set-Cookie", value) ∈ (site.finish r response).fields ↔
      ("Set-Cookie", value) ∈ response.fields := by
  have added : ("Set-Cookie", value) ∉ site.frameFields r := by
    unfold frameFields safetyFields
    split
    · simp [Origin.setCookie_notMem_fields site.origins r.fields actual value]
    · simp
  rw [fields_finish]
  simp [added]

/-- An exchange without an endpoint changes nothing and is the same in every world. -/
theorem respond_of_not_asks (unasked : ∀ e, ¬ r.Asks e) : ∃ response, ∀ w, ∃ w',
    site.respond r w = (.ok (site.finish r response), w') ∧ w.Quiet w' := by
  obtain ⟨response, dispatched⟩ := site.dispatch_of_not_asks unasked
  rw [respond_eq_exchange]
  refine ⟨response, fun w => ?_⟩
  obtain ⟨w', exchanged, quiet⟩ := site.exchange_apply w _ (dispatched (site.arrived r w))
  exact ⟨w', exchanged, (site.quiet_arrived w r).quiet quiet⟩

end Site
end LoginGate.Http
