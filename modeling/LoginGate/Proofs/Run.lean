import LoginGate.Proofs.Sessions
import Mathlib.Data.List.Infix

/-!
# Proofs/Run — requests in any order, and refreshes that are under way

A run takes one request after another, from a fresh service on. A refresh is two events: its first
half is kept among those under way (`Pending`), and whatever comes before its second half comes
between the two. Time passes as the run says, and the storage fails when the run says.
-/

namespace LoginGate.Run

/-- A refresh between its halves: the token presented, and the session that was read. -/
structure Pending where
  token : String
  session : Session

/-- Where a run stands. -/
structure State where
  world : World
  /-- The refreshes under way, in the order in which they began. -/
  pending : List Pending

namespace State

/-- The sessions stored. -/
abbrev sessions (σ : State) : List Session := σ.world.store.sessions

/-- The refresh tokens stored. -/
abbrev tokens (σ : State) : List String := σ.world.store.refreshTokens

/-- The identifiers of the sessions stored. -/
abbrev sessionIds (σ : State) : List Uuid := σ.world.store.sessionIds

end State

/-- What can happen in a run. -/
inductive Event where
  | register (username email password : Argument)
  | login (login password userAgent clientIp : Argument)
  /-- The first half of a refresh. -/
  | lookUp (token : String)
  /-- The second half of the refresh that is at this place among those under way. -/
  | complete (index : Nat)
  | logout (user session : Uuid)
  | logoutAll (user : Uuid)
  | verify (accessToken : String)
  | block (login : String) (flag : Flag)
  /-- Time passes. -/
  | advance (span : Nat)
  /-- The storage is to fail at a later call, or at none if zero. -/
  | fault (calls : Nat)

/-- What a request that does not fail is answered with. -/
inductive Answer where
  | registered (user : Uuid)
  | admitted (admission : Admission)
  /-- The first half of a refresh has found its session. -/
  | found
  /-- A refresh that presented this token hands out a pair. -/
  | renewed (token : String) (pair : TokenPair)
  /-- A log-out has returned. -/
  | ended
  | verified (user : Uuid)
  | flagged (known : Bool)
  /-- Nothing was asked. -/
  | none

namespace State

/-- The state in which a request leaves a run. -/
def after {α : Type} (σ : State) (answer : α → Answer) (p : Except Failure α × World) :
    Except Failure Answer × State :=
  (p.1.map answer, { σ with world := p.2 })

theorem ok_of_after {α : Type} {σ : State} {answer : α → Answer} {p : Except Failure α × World}
    {a : Answer} (h : (σ.after answer p).1 = .ok a) : ∃ r, p.1 = .ok r ∧ answer r = a := by
  rcases p with ⟨e | r, w⟩
  · exact nomatch h
  · exact ⟨r, rfl, Except.ok.inj h⟩

/-- The state after the first half of a refresh, which is under way if it has found its session. -/
def begun (σ : State) (token : String) :
    Except Failure Session × World → Except Failure Answer × State
  | (.ok session, w) => (.ok .found, ⟨w, σ.pending ++ [⟨token, session⟩]⟩)
  | (.error e, w) => (.error e, { σ with world := w })

theorem world_begun (σ : State) (token : String) (p : Except Failure Session × World) :
    (σ.begun token p).2.world = p.2 := by
  rcases p with ⟨_ | _, w⟩ <;> rfl

end State

/-- **One event**, with its answer. -/
def step (service : Service) (σ : State) : Event → Except Failure Answer × State
  | .register username email password =>
    σ.after .registered (service.registerWith username email password σ.world)
  | .login login password userAgent clientIp =>
    σ.after .admitted (service.loginWith login password userAgent clientIp σ.world)
  | .lookUp token => σ.begun token (Service.inquire token σ.world)
  | .complete index =>
    match σ.pending[index]? with
    | some p =>
      State.after ⟨σ.world, σ.pending.eraseIdx index⟩ (.renewed p.token)
        (service.complete p.session p.token σ.world)
    | none => (.ok .none, σ)
  | .logout user session => σ.after (fun _ => .ended) (Service.logout user session σ.world)
  | .logoutAll user => σ.after (fun _ => .ended) (Service.logoutAll user σ.world)
  | .verify accessToken => σ.after .verified (service.verify accessToken σ.world)
  | .block login flag => σ.after .flagged (Service.blockWith login flag σ.world)
  | .advance span => (.ok .none, { σ with world := { σ.world with now := σ.world.now + span } })
  | .fault calls => (.ok .none, { σ with world := { σ.world with faultIn := calls } })

/-- A fresh service, with nothing under way. -/
def start (now : Instant) (threshold : Log.Level) : State :=
  ⟨Service.freshWorld now threshold, []⟩

/-- **A run**: where some events lead. -/
def run (service : Service) (σ : State) (events : List Event) : State :=
  events.foldl (fun σ e => (step service σ e).2) σ

/-- The answers that a run gives, one for each event. -/
def answers (service : Service) : State → List Event → List (Except Failure Answer)
  | _, [] => []
  | σ, e :: events => (step service σ e).1 :: answers service (step service σ e).2 events

variable {service : Service} {σ : State}

@[simp] theorem run_nil : run service σ [] = σ := rfl

@[simp] theorem run_cons (e : Event) (events : List Event) :
    run service σ (e :: events) = run service (step service σ e).2 events := rfl

theorem run_append (before after : List Event) :
    run service σ (before ++ after) = run service (run service σ before) after :=
  List.foldl_append ..

theorem run_concat (before : List Event) (e : Event) :
    run service σ (before ++ [e]) = (step service (run service σ before) e).2 :=
  run_append ..

/-! ## One event -/

/-- The second half of a refresh under way is answered as `Service.complete` answers it. -/
theorem step_complete {index : Nat} {p : Pending} (hp : σ.pending[index]? = some p) :
    step service σ (.complete index) = State.after ⟨σ.world, σ.pending.eraseIdx index⟩
      (.renewed p.token) (service.complete p.session p.token σ.world) := by
  simp only [step, hp]

/-- **How an event can end**, as far as the world goes. -/
inductive StepEnd (service : Service) (σ : State) : Event → World → Prop where
  | register {username email password : Argument} {p : Except Failure Uuid × World}
    (ends : Service.RegisterEnd service username email password σ.world p) :
    StepEnd service σ (.register username email password) p.2
  | login {login password userAgent clientIp : Argument} {p : Except Failure Admission × World}
    (ends : Service.LoginEnd service login password userAgent clientIp σ.world p)
    (answer : (step service σ (.login login password userAgent clientIp)).1 =
      p.1.map .admitted) : StepEnd service σ (.login login password userAgent clientIp) p.2
  | lookUp {token : String} {w : World} (after : σ.world.Quiet w) :
    StepEnd service σ (.lookUp token) w
  | complete {index : Nat} {p : Pending} {q : Except Failure TokenPair × World}
    (underWay : σ.pending[index]? = some p)
    (ends : Service.Completion service p.session p.token σ.world q) :
    StepEnd service σ (.complete index) q.2
  | absent {index : Nat} : StepEnd service σ (.complete index) σ.world
  | logout {user session : Uuid} {p : Except Failure Unit × World}
    (ends : Service.LogoutEnd (·.deleteSession user session) σ.world p) :
    StepEnd service σ (.logout user session) p.2
  | logoutAll {user : Uuid} {p : Except Failure Unit × World}
    (ends : Service.LogoutEnd (·.deleteSessions user) σ.world p) :
    StepEnd service σ (.logoutAll user) p.2
  | verify {accessToken : String} {w : World} (after : σ.world.Quiet w) :
    StepEnd service σ (.verify accessToken) w
  | block {login : String} {flag : Flag} {p : Except Failure Bool × World}
    (ends : Service.BlockEnd login flag σ.world p) : StepEnd service σ (.block login flag) p.2
  | advance {span : Nat} :
    StepEnd service σ (.advance span) { σ.world with now := σ.world.now + span }
  | fault {calls : Nat} : StepEnd service σ (.fault calls) { σ.world with faultIn := calls }

/-- **Every event ends in one of these ways.** -/
theorem stepEnd (service : Service) (σ : State) (e : Event) :
    StepEnd service σ e (step service σ e).2.world := by
  cases e with
  | register => exact .register (Service.registerEnd ..)
  | login => exact .login (Service.loginEnd ..) rfl
  | lookUp token =>
    refine .lookUp ?_
    change σ.world.Quiet (σ.begun token (Service.inquire token σ.world)).2.world
    rw [State.world_begun]
    exact Service.isQuiet_inquire token σ.world
  | complete index =>
    cases hi : σ.pending[index]? with
    | none =>
      simp only [step, hi]
      exact .absent
    | some p =>
      rw [step_complete hi]
      exact .complete hi (Service.completion ..)
  | logout => exact .logout (Service.logoutEnd ..)
  | logoutAll => exact .logoutAll (Service.logoutAllEnd ..)
  | verify => exact .verify (Service.isQuiet_verify ..)
  | block => exact .block (Service.blockEnd ..)
  | advance => exact .advance
  | fault => exact .fault

/-- **What an event does to the world** is what a request does to it, unless the storage is meddled
with. -/
theorem step_effect (service : Service) (σ : State) {e : Event} (he : ∀ calls, e ≠ .fault calls) :
    Effect service σ.world (step service σ e).2.world := by
  have ends := stepEnd service σ e
  generalize (step service σ e).2.world = w at ends ⊢
  cases ends with
  | register ends => exact ends.effect
  | login ends => exact ends.effect
  | lookUp after => exact .of_quiet after
  | complete underWay ends => exact ends.effect
  | absent => exact .of_quiet (.refl _)
  | logout ends => exact ends.effect fun after => .ended _ _ after
  | logoutAll ends => exact ends.effect fun after => .endedAll _ after
  | verify after => exact .of_quiet after
  | block ends => exact ends.effect
  | advance =>
    exact .idle rfl (Int.le_add_of_nonneg_right (Int.natCast_nonneg _)) le_rfl le_rfl le_rfl
  | fault => exact absurd rfl (he _)

/-- To show something of the world after an event, show it for what a request does, and for a fault
that is put in. -/
theorem step_induct {P : World → Prop} (e : Event)
    (effect : Effect service σ.world (step service σ e).2.world → P (step service σ e).2.world)
    (fault : ∀ calls, P { σ.world with faultIn := calls }) : P (step service σ e).2.world := by
  by_cases he : ∃ calls, e = .fault calls
  · obtain ⟨calls, rfl⟩ := he
    exact fault calls
  · exact effect (step_effect service σ fun calls h => he ⟨calls, h⟩)

/-- A refresh under way after an event was under way before, or it has just read a session of the
token that it presents. -/
theorem mem_pending_step {e : Event} {p : Pending} (hp : p ∈ (step service σ e).2.pending) :
    p ∈ σ.pending ∨ p.session ∈ σ.sessions ∧ p.session.refreshToken = p.token := by
  cases e with
  | lookUp token =>
    have read := Service.inquire_induct token (w := σ.world) (P := fun q => ∀ s,
      q.1 = .ok s → s ∈ σ.sessions ∧ s.refreshToken = token) (fun _ _ h => nomatch h)
      (fun _ _ _ _ _ h => nomatch h) (fun _ _ _ _ _ _ h => nomatch h) fun s w' _ _ hs _ _ r hr => by
        obtain rfl := Except.ok.inj hr
        exact ⟨List.mem_of_find?_eq_some hs, by simpa using List.find?_some hs⟩
    change p ∈ (σ.begun token (Service.inquire token σ.world)).2.pending at hp
    generalize Service.inquire token σ.world = q at hp read
    rcases q with ⟨e | session, w⟩
    · exact .inl hp
    · rcases List.mem_append.mp hp with hp | hp
      · exact .inl hp
      · obtain rfl := List.mem_singleton.mp hp
        exact .inr (read session rfl)
  | complete index =>
    cases hi : σ.pending[index]? with
    | none =>
      simp only [step, hi] at hp
      exact .inl hp
    | some q =>
      simp only [step, hi] at hp
      exact .inl (List.mem_of_mem_eraseIdx hp)
  | register | login | logout | logoutAll | verify | block | advance | fault => exact .inl hp

/-- **What an event is answered with** if it does not fail. -/
inductive Reply (service : Service) (σ : State) : Event → Answer → Prop where
  | registered {username email password : Argument} {user : Uuid}
    (ok : (service.registerWith username email password σ.world).1 = .ok user) :
    Reply service σ (.register username email password) (.registered user)
  | admitted {login password userAgent clientIp : Argument} {a : Admission}
    (ok : (service.loginWith login password userAgent clientIp σ.world).1 = .ok a) :
    Reply service σ (.login login password userAgent clientIp) (.admitted a)
  | found (token : String) : Reply service σ (.lookUp token) .found
  | renewed {index : Nat} {p : Pending} {pair : TokenPair} (underWay : σ.pending[index]? = some p)
    (ok : (service.complete p.session p.token σ.world).1 = .ok pair) :
    Reply service σ (.complete index) (.renewed p.token pair)
  | absent (index : Nat) : Reply service σ (.complete index) .none
  | ended (user session : Uuid) : Reply service σ (.logout user session) .ended
  | endedAll (user : Uuid) : Reply service σ (.logoutAll user) .ended
  | verified {accessToken : String} {user : Uuid}
    (ok : (service.verify accessToken σ.world).1 = .ok user) :
    Reply service σ (.verify accessToken) (.verified user)
  | flagged {login : String} {flag : Flag} {known : Bool}
    (ok : (Service.blockWith login flag σ.world).1 = .ok known) :
    Reply service σ (.block login flag) (.flagged known)
  | advanced (span : Nat) : Reply service σ (.advance span) .none
  | faulted (calls : Nat) : Reply service σ (.fault calls) .none

/-- **Every event is answered in kind.** -/
theorem reply_of_ok {e : Event} {a : Answer} (h : (step service σ e).1 = .ok a) :
    Reply service σ e a := by
  cases e with
  | register username email password =>
    obtain ⟨r, ok, rfl⟩ := State.ok_of_after h
    exact .registered ok
  | login login password userAgent clientIp =>
    obtain ⟨r, ok, rfl⟩ := State.ok_of_after h
    exact .admitted ok
  | lookUp token =>
    change (σ.begun token (Service.inquire token σ.world)).1 = _ at h
    generalize Service.inquire token σ.world = q at h
    rcases q with ⟨e | session, w⟩
    · exact nomatch h
    · obtain rfl := Except.ok.inj h
      exact .found token
  | complete index =>
    cases hi : σ.pending[index]? with
    | none =>
      simp only [step, hi] at h
      obtain rfl := Except.ok.inj h
      exact .absent index
    | some p =>
      rw [step_complete hi] at h
      obtain ⟨r, ok, rfl⟩ := State.ok_of_after h
      exact .renewed hi ok
  | logout user session =>
    obtain ⟨r, -, rfl⟩ := State.ok_of_after h
    exact .ended user session
  | logoutAll user =>
    obtain ⟨r, -, rfl⟩ := State.ok_of_after h
    exact .endedAll user
  | verify accessToken =>
    obtain ⟨r, ok, rfl⟩ := State.ok_of_after h
    exact .verified ok
  | block login flag =>
    obtain ⟨r, ok, rfl⟩ := State.ok_of_after h
    exact .flagged ok
  | advance span =>
    obtain rfl := Except.ok.inj h
    exact .advanced span
  | fault calls =>
    obtain rfl := Except.ok.inj h
    exact .faulted calls

/-- **An admission comes from a login** that has ended with it. -/
theorem loginEnd_of_admitted {e : Event} {a : Admission}
    (h : (step service σ e).1 = .ok (.admitted a)) : ∃ login password userAgent clientIp,
      e = .login login password userAgent clientIp ∧
      Service.LoginEnd service login password userAgent clientIp σ.world
        (.ok a, (step service σ e).2.world) := by
  cases reply_of_ok h with
  | @admitted login password userAgent clientIp _ ok =>
    have ends := Service.loginEnd service login password userAgent clientIp σ.world
    refine ⟨login, password, userAgent, clientIp, rfl, ?_⟩
    change Service.LoginEnd service login password userAgent clientIp σ.world
      (.ok a, (service.loginWith login password userAgent clientIp σ.world).2)
    rwa [← ok]

/-- **What a login hands out is stored.** -/
theorem stored_of_admitted {e : Event} {a : Admission}
    (h : (step service σ e).1 = .ok (.admitted a)) : ∃ s ∈ (step service σ e).2.sessions,
      s.id = a.session ∧ s.owner = a.user ∧ s.refreshToken = a.refreshToken := by
  obtain ⟨login, password, userAgent, clientIp, -, ends⟩ := loginEnd_of_admitted h
  exact ends.stored

/-- A pair is handed out by nothing but the second half of a refresh. -/
theorem eq_complete_of_renewed {e : Event} {t : String} {pair : TokenPair}
    (h : (step service σ e).1 = .ok (.renewed t pair)) :
    ∃ index p, e = .complete index ∧ σ.pending[index]? = some p ∧ p.token = t ∧
      (service.complete p.session p.token σ.world).1 = .ok pair := by
  cases reply_of_ok h with
  | renewed underWay ok => exact ⟨_, _, rfl, underWay, rfl, ok⟩

/-- **A pair comes from a refresh** that has ended with it. -/
theorem completion_of_renewed {e : Event} {t : String} {pair : TokenPair}
    (h : (step service σ e).1 = .ok (.renewed t pair)) : ∃ session,
      Service.Completion service session t σ.world (.ok pair, (step service σ e).2.world) := by
  obtain ⟨index, p, rfl, underWay, rfl, ok⟩ := eq_complete_of_renewed h
  have done := Service.completion service p.session p.token σ.world
  refine ⟨p.session, ?_⟩
  rw [step_complete underWay]
  change Service.Completion service p.session p.token σ.world
    (.ok pair, (service.complete p.session p.token σ.world).2)
  rwa [← ok]

/-- **What a refresh hands out is stored**, under the identifier of the session that held the token
presented. -/
theorem stored_of_renewed {e : Event} {t : String} {pair : TokenPair}
    (h : (step service σ e).1 = .ok (.renewed t pair)) : ∃ s ∈ (step service σ e).2.sessions,
      s.refreshToken = pair.refreshToken ∧ ∃ old ∈ σ.sessions, old.refreshToken = t ∧
        s.id = old.id ∧ s.owner = old.owner := by
  obtain ⟨session, done⟩ := completion_of_renewed h
  exact done.stored

/-! ## Runs -/

/-- **What every event preserves holds wherever a run leads.** -/
theorem run_induct {P : State → Prop} (step : ∀ σ e, P σ → P (step service σ e).2) (h : P σ)
    (events : List Event) : P (run service σ events) := by
  induction events generalizing σ with
  | nil => exact h
  | cons e events ih => exact ih (step σ e h)

/-- Time does not go back in a run, and draws are not taken back. -/
theorem step_le (service : Service) (σ : State) (e : Event) :
    σ.world.now ≤ (step service σ e).2.world.now ∧
      σ.world.ids ≤ (step service σ e).2.world.ids ∧
        σ.world.tokens ≤ (step service σ e).2.world.tokens := by
  refine step_induct (P := fun w => σ.world.now ≤ w.now ∧ σ.world.ids ≤ w.ids ∧
    σ.world.tokens ≤ w.tokens) e (fun effect => ?_) fun _ => ⟨le_rfl, le_rfl, le_rfl⟩
  obtain ⟨now, ids, tokens, -⟩ := effect.le
  exact ⟨now, ids, tokens⟩

theorem run_le (service : Service) (σ : State) (events : List Event) :
    σ.world.now ≤ (run service σ events).world.now ∧
      σ.world.ids ≤ (run service σ events).world.ids ∧
        σ.world.tokens ≤ (run service σ events).world.tokens := by
  refine run_induct (P := fun τ => σ.world.now ≤ τ.world.now ∧ σ.world.ids ≤ τ.world.ids ∧
    σ.world.tokens ≤ τ.world.tokens) (fun τ e h => ?_) ⟨le_rfl, le_rfl, le_rfl⟩ events
  obtain ⟨now, ids, tokens⟩ := step_le service τ e
  exact ⟨h.1.trans now, h.2.1.trans ids, h.2.2.trans tokens⟩

/-- Draws that have not repeated by the end of a run had not repeated before. -/
theorem unrepeated_of_run (events : List Event)
    (fresh : service.supply.Unrepeated (run service σ events).world) :
    service.supply.Unrepeated σ.world :=
  fresh.anti (run_le service σ events).2.1 (run_le service σ events).2.2

/-- What every event preserves as long as no draw repeats. -/
theorem run_induct_of_unrepeated {P : State → Prop} (step : ∀ σ e,
    service.supply.Unrepeated (step service σ e).2.world → P σ → P (step service σ e).2) (h : P σ)
    {events : List Event} (fresh : service.supply.Unrepeated (run service σ events).world) :
    P (run service σ events) := by
  induction events generalizing σ with
  | nil => exact h
  | cons e events ih => exact ih (step σ e (unrepeated_of_run events fresh) h) fresh

theorem step_keyed {e : Event} (h : σ.world.store.Keyed) :
    (step service σ e).2.world.store.Keyed :=
  step_induct (P := fun w => w.store.Keyed) e (fun effect => effect.change.keyed h) fun _ => h

/-- **Wherever a run leads, sessions are kept apart.** -/
theorem run_keyed (service : Service) (h : σ.world.store.Keyed) (events : List Event) :
    (run service σ events).world.store.Keyed :=
  run_induct (P := fun τ => τ.world.store.Keyed) (fun _ _ => step_keyed) h events

theorem start_keyed (now : Instant) (threshold : Log.Level) :
    (start now threshold).world.store.Keyed := Store.Keyed.empty

theorem step_covers {e : Event} (h : service.supply.Covers σ.world) :
    service.supply.Covers (step service σ e).2.world :=
  step_induct (P := fun w => service.supply.Covers w) e (fun effect => effect.covers h)
    fun _ => ⟨h.ids, h.tokens⟩

/-- Wherever a run leads, what is stored has been drawn. -/
theorem run_covers (h : service.supply.Covers σ.world) (events : List Event) :
    service.supply.Covers (run service σ events).world :=
  run_induct (P := fun τ => service.supply.Covers τ.world) (fun _ _ => step_covers) h events

theorem start_covers (service : Service) (now : Instant) (threshold : Log.Level) :
    service.supply.Covers (start now threshold).world :=
  ⟨fun _ hs => absurd hs List.not_mem_nil, fun _ hs => absurd hs List.not_mem_nil⟩

theorem step_spent {e : Event} (fresh : service.supply.Unrepeated (step service σ e).2.world)
    {t : String} (h : service.supply.Spent t σ.world) :
    service.supply.Spent t (step service σ e).2.world :=
  step_induct (P := fun w => service.supply.Unrepeated w → service.supply.Spent t w) e
    (fun effect fresh => effect.spent fresh h) (fun _ _ => ⟨h.drawn, h.gone⟩) fresh

/-- **A spent token stays spent.** -/
theorem run_spent {events : List Event}
    (fresh : service.supply.Unrepeated (run service σ events).world) {t : String}
    (h : service.supply.Spent t σ.world) :
    service.supply.Spent t (run service σ events).world :=
  run_induct_of_unrepeated (P := fun τ => service.supply.Spent t τ.world)
    (fun _ _ fresh => step_spent fresh) h fresh

theorem step_closed {e : Event} (fresh : service.supply.Unrepeated (step service σ e).2.world)
    {id : Uuid} (h : service.supply.Closed id σ.world) :
    service.supply.Closed id (step service σ e).2.world :=
  step_induct (P := fun w => service.supply.Unrepeated w → service.supply.Closed id w) e
    (fun effect fresh => effect.closed fresh h) (fun _ _ => ⟨h.drawn, h.gone⟩) fresh

/-- **A closed session stays closed.** -/
theorem run_closed {events : List Event}
    (fresh : service.supply.Unrepeated (run service σ events).world) {id : Uuid}
    (h : service.supply.Closed id σ.world) :
    service.supply.Closed id (run service σ events).world :=
  run_induct_of_unrepeated (P := fun τ => service.supply.Closed id τ.world)
    (fun _ _ fresh => step_closed fresh) h fresh

/-- A storage fault comes from nowhere but the run. -/
theorem run_faultIn (service : Service) {events : List Event} (h : ∀ calls, .fault calls ∉ events)
    (hσ : σ.world.faultIn = 0) : (run service σ events).world.faultIn = 0 := by
  induction events generalizing σ with
  | nil => exact hσ
  | cons e events ih =>
    refine ih (fun calls mem => h calls (List.mem_cons_of_mem _ mem)) ?_
    have le := (step_effect service σ fun calls he =>
      h calls (he ▸ List.mem_cons_self)).le.2.2.2
    exact Nat.le_zero.mp (hσ ▸ le)

/-- **A state to which some run leads.** -/
def Reachable (service : Service) (σ : State) : Prop :=
  ∃ now threshold events, run service (start now threshold) events = σ

theorem reachable_run (now : Instant) (threshold : Log.Level) (events : List Event) :
    Reachable service (run service (start now threshold) events) := ⟨now, threshold, events, rfl⟩

theorem Reachable.keyed (h : Reachable service σ) : σ.world.store.Keyed := by
  obtain ⟨now, threshold, events, rfl⟩ := h
  exact run_keyed service (start_keyed now threshold) events

theorem Reachable.covers (h : Reachable service σ) : service.supply.Covers σ.world := by
  obtain ⟨now, threshold, events, rfl⟩ := h
  exact run_covers (start_covers service now threshold) events

/-! ## A service whose draws can be followed

The n-th refresh token has n letters, so no token comes up twice, and no identifier does before all
of them have been drawn. -/

/-- A service with the settings that are in force if nothing is set, but for the lifetime of access
tokens and the cost of a hash. -/
def sample (accessSeconds : Int) : Service where
  signer :=
    { secret := "dev", lifetime := accessSeconds * Instant.perSecond, algorithm := "HS256"
      issuer := none }
  hashMethod := "pbkdf2:sha256:1"
  decoyHash := ""
  sessionSpan := 15 * Instant.perDay
  supply :=
    { id := Uuid.ofNat
      token := fun n => String.ofList (List.replicate n 'r')
      salt := fun n => String.ofList (List.replicate n 's') }

theorem sample_unrepeated (accessSeconds : Int) {w : World} (few : w.ids < 1 <<< 128) :
    (sample accessSeconds).supply.Unrepeated w := by
  constructor
  · intro m hm n hn same
    have same : m % (1 <<< 128) = n % (1 <<< 128) := congrArg Uuid.value same
    rwa [Nat.mod_eq_of_lt (hm.2.trans_lt few), Nat.mod_eq_of_lt (hn.2.trans_lt few)] at same
  · intro m _ n _ same
    have same : List.replicate m 'r' = List.replicate n 'r' := String.ofList_injective same
    simpa using congrArg List.length same

theorem sample_salts (accessSeconds : Int) :
    ∀ n, '$' ∉ ((sample accessSeconds).supply.salt n).toList := by
  intro n mem
  have salt : ((sample accessSeconds).supply.salt n).toList = List.replicate n 's' :=
    String.toList_ofList
  rw [salt] at mem
  exact absurd (List.eq_of_mem_replicate mem) (by decide)

/-- A registration and a login. -/
def opening : List Event :=
  [.register (.text "alice") (.text "alice@example.com") (.text "Passw0rd!"),
    .login (.text "alice") (.text "Passw0rd!") (.text "agent") .nothing]

/-- The session that the login opens. -/
def firstSession : Session where
  id := Uuid.ofNat 2
  owner := Uuid.ofNat 1
  refreshToken := "r"
  created := 0
  expires := 15 * Instant.perDay
  userAgent := "agent"
  clientIp := none

end LoginGate.Run
