import LoginGate.Proofs.Clock
import LoginGate.Proofs.Loaded
import LoginGate.Proofs.Run.Accounts

/-!
# Proofs/Run/Records — what the sessions stored say

A session stored after an event was stored before it, or it is what a rotation has just made of one
that was, or a login has just opened it (`Descent`). Its refresh token and its dates change with
each rotation; its identifier, its owner and what it says of the device are those that its login has
recorded (`Records`).
-/

namespace LoginGate.Run

variable {service : Service} {σ : State} {e : Event} {s : Session}

/-! ## Where a session stored after an event comes from -/

/-- **What a login records** in the session that it opens, told this of the device. -/
structure Records (a : Admission) (userAgent clientIp : Argument) (s : Session) : Prop where
  id : s.id = a.session
  owner : s.owner = a.user
  userAgent : ∃ agent, userAgent.measured = .ok agent ∧
    s.userAgent = Session.clamp Session.userAgentWidth agent
  clientIp : ∃ ip, clientIp.measured? = .ok ip ∧
    s.clientIp = ip.map (Session.clamp Session.clientIpWidth)

/-- **Where a session stored after an event comes from.** -/
inductive Descent (service : Service) (σ : State) (e : Event) (s : Session) : Prop where
  | kept (mem : s ∈ σ.sessions)
  | rotated (old : Session) (mem : old ∈ σ.sessions) (token : String) (expires : Instant)
    (within : Instant.plus? σ.world.now service.sessionSpan = some expires)
    (eq : s = old.rotated token σ.world.now expires)
  | opened (login password userAgent clientIp : Argument) (a : Admission)
    (event : e = .login login password userAgent clientIp)
    (answer : (step service σ e).1 = .ok (.admitted a)) (records : Records a userAgent clientIp s)
    (owner : ∃ u ∈ σ.world.store.users, u.id = s.owner) (created : s.created = σ.world.now)
    (within : Instant.plus? σ.world.now service.sessionSpan = some s.expires)

/-- Where nothing has been stored, a session has been there before. -/
theorem Descent.of_store_eq {w : World} (same : w.store = σ.world.store)
    (hs : s ∈ w.store.sessions) : Descent service σ e s := by
  rw [same] at hs
  exact .kept hs

/-- What the second half of a refresh leaves is as it was or rotated. -/
theorem descent_of_complete {p : Pending} {q : Except Failure TokenPair × World}
    (ends : Service.Completion service p.session p.token σ.world q)
    (hs : s ∈ q.2.store.sessions) : Descent service σ e s := by
  cases ends with
  | undated _ after | unswept _ _ _ after | overlong _ _ _ after | unrotated _ _ _ after
  | lost _ _ _ _ after => exact .of_store_eq after.store_eq hs
  | swept _ _ _ after => exact .kept (Store.mem_deleteSession.mp (after.store_eq ▸ hs)).1
  | unissued _ within _ _ _ _ after | renewed _ within _ _ _ _ after =>
    rw [after.store_eq] at hs
    obtain ⟨mem, -⟩ | ⟨old, mem, -, eq⟩ := Store.mem_rotate hs
    · exact .kept mem
    · exact .rotated old mem _ _ within eq

/-- What a login leaves is as it was, or it is the session that the login has opened. -/
theorem descent_of_login {login password userAgent clientIp : Argument}
    {p : Except Failure Admission × World}
    (ends : Service.LoginEnd service login password userAgent clientIp σ.world p)
    (answer : (step service σ (.login login password userAgent clientIp)).1 = p.1.map .admitted)
    (hs : s ∈ p.2.store.sessions) :
    Descent service σ (.login login password userAgent clientIp) s := by
  cases ends with
  | refused bar after => exact .of_store_eq (after.elim (·.store_eq) (·.store_eq)) hs
  | admitted u expires agent ip known fit issued within told address unique after =>
    rw [after.store_eq] at hs
    obtain hs | hs := List.mem_append.mp hs
    · exact .kept hs
    · obtain rfl := List.mem_singleton.mp hs
      obtain ⟨name, -, known⟩ := Option.bind_eq_some_iff.mp known
      have owner := (Store.userByLogin?_eq_some known).1
      exact .opened login password userAgent clientIp _ rfl answer
        ⟨rfl, rfl, ⟨agent, told, rfl⟩, ⟨ip, address, rfl⟩⟩ ⟨u, owner, rfl⟩ rfl within

/-- **Every session stored after an event comes from somewhere.** -/
theorem descent (hs : s ∈ (step service σ e).2.sessions) : Descent service σ e s := by
  have ends := stepEnd service σ e
  change s ∈ (step service σ e).2.world.store.sessions at hs
  generalize (step service σ e).2.world = w at ends hs
  cases ends with
  | register ends =>
    cases ends with
    | refused after => exact .of_store_eq (after.elim (·.store_eq) (·.store_eq)) hs
    | registered _ _ _ _ _ _ _ _ _ _ _ _ after =>
      rw [after.store_eq, Store.sessions_addUser] at hs
      exact .kept hs
  | login ends answer => exact descent_of_login ends answer hs
  | lookUp after | verify after => exact .of_store_eq after.store_eq hs
  | complete underWay ends => exact descent_of_complete ends hs
  | logout ends =>
    cases ends with
    | failed after => exact .of_store_eq after.store_eq hs
    | ended after => exact .kept (Store.mem_deleteSession.mp (after.store_eq ▸ hs)).1
  | logoutAll ends =>
    cases ends with
    | failed after => exact .of_store_eq after.store_eq hs
    | ended after => exact .kept (Store.mem_deleteSessions.mp (after.store_eq ▸ hs)).1
  | block ends =>
    cases ends with
    | failed _ after | unknown _ after => exact .of_store_eq after.store_eq hs
    | flagged u blocked truth known after =>
      rw [after.store_eq, Store.sessions_setBlocked] at hs
      exact .kept hs
  | absent | advance | fault => exact .kept hs

/-! ## Along a run -/

/-- **What is known of a session** wherever a run leads: it has an owner, it was stored no later
than now, and it lasts as long as sessions last. -/
structure Sound (service : Service) (w : World) (s : Session) : Prop where
  owned : ∃ u ∈ w.store.users, u.id = s.owner
  created_le : s.created ≤ w.now
  expires_eq : s.expires = s.created + service.sessionSpan

/-- **An event leaves sound sessions** if it has found sound ones. -/
theorem Sound.step (h : ∀ s ∈ σ.sessions, Sound service σ.world s) (e : Event) :
    ∀ s ∈ (step service σ e).2.sessions, Sound service (Run.step service σ e).2.world s := by
  intro s hs
  have now := (step_le service σ e).1
  have stays {id : Uuid} (hu : ∃ u ∈ σ.world.store.users, u.id = id) :
      ∃ u ∈ (Run.step service σ e).2.world.store.users, u.id = id := by
    obtain ⟨u, hu, rfl⟩ := hu
    have stays : ∃ blocked, { u with isBlocked := blocked } ∈
        (Run.step service σ e).2.world.store.users := user_stays_step hu e
    obtain ⟨blocked, hu⟩ := stays
    exact ⟨_, hu, rfl⟩
  cases descent hs with
  | kept mem =>
    obtain ⟨owned, created_le, expires_eq⟩ := h s mem
    exact ⟨stays owned, created_le.trans now, expires_eq⟩
  | rotated old mem token expires within eq =>
    subst eq
    exact ⟨stays (h old mem).owned, now, (Instant.plus?_eq_some within).2.2⟩
  | opened login password userAgent clientIp a event answer records owner created within =>
    refine ⟨stays owner, created ▸ now, ?_⟩
    rw [created]
    exact (Instant.plus?_eq_some within).2.2

/-- Wherever a run from a fresh service leads, the sessions stored are sound. -/
theorem sound_of_run (service : Service) (now : Instant) (threshold : Log.Level)
    (events : List Event) : ∀ s ∈ (run service (start now threshold) events).sessions,
      Sound service (run service (start now threshold) events).world s :=
  run_induct (P := fun τ => ∀ s ∈ τ.sessions, Sound service τ.world s)
    (fun _ e h => Sound.step h e) (fun _ hs => absurd hs List.not_mem_nil) events

/-- A text cut to a width has no more characters than that. -/
theorem length_clamp_le (width : Nat) (s : String) : (Session.clamp width s).length ≤ width := by
  simp [Session.clamp, String.length_ofList]

theorem Records.widths {a : Admission} {userAgent clientIp : Argument}
    (h : Records a userAgent clientIp s) :
    s.userAgent.length ≤ 512 ∧ ∀ ip ∈ s.clientIp, ip.length ≤ 64 := by
  obtain ⟨agent, -, kept⟩ := h.userAgent
  obtain ⟨ip?, -, cut⟩ := h.clientIp
  constructor
  · rw [kept]
    exact length_clamp_le _ _
  · intro ip hip
    rw [cut] at hip
    obtain ⟨whole, -, rfl⟩ := Option.mem_map.mp hip
    exact length_clamp_le _ _

/-! ## The login that has opened a session -/

/-- **A session has been opened by a login of the run**: the one that came after this past, was told
this of the device and was answered with this admission. -/
inductive OpenedBy (service : Service) (σ : State) (events : List Event) (s : Session)
    (past : List Event) : Prop where
  | login (login password userAgent clientIp : Argument) (a : Admission)
    (inRun : past ++ [.login login password userAgent clientIp] <+: events)
    (answer : (step service (run service σ past) (.login login password userAgent clientIp)).1 =
      .ok (.admitted a))
    (records : Records a userAgent clientIp s)

theorem OpenedBy.later {events past : List Event} (h : OpenedBy service σ events s past)
    (e : Event) : OpenedBy service σ (events ++ [e]) s past := by
  obtain ⟨login, password, userAgent, clientIp, a, inRun, answer, records⟩ := h
  exact .login login password userAgent clientIp a (inRun.trans (List.prefix_append ..)) answer
    records

/-- A rotation leaves a session the one that its login has opened. -/
theorem OpenedBy.rotated {events past : List Event} (h : OpenedBy service σ events s past)
    (token : String) (created expires : Instant) :
    OpenedBy service σ events (s.rotated token created expires) past := by
  obtain ⟨login, password, userAgent, clientIp, a, inRun, answer, records⟩ := h
  exact .login login password userAgent clientIp a inRun answer
    ⟨records.id, records.owner, records.userAgent, records.clientIp⟩

theorem OpenedBy.widths {events past : List Event} (h : OpenedBy service σ events s past) :
    s.userAgent.length ≤ 512 ∧ ∀ ip ∈ s.clientIp, ip.length ≤ 64 := by
  obtain ⟨_, _, _, _, _, _, _, records⟩ := h
  exact records.widths

/-- **Every session stored has been opened by a login of the run**, however often it has been
rotated since. -/
theorem openedBy_of_run {events : List Event} (empty : σ.sessions = [])
    (hs : s ∈ (run service σ events).sessions) : ∃ past, OpenedBy service σ events s past := by
  induction events using List.reverseRecOn generalizing s with
  | nil =>
    rw [run_nil, empty] at hs
    exact absurd hs List.not_mem_nil
  | append_singleton events e ih =>
    rw [run_concat] at hs
    cases descent hs with
    | kept mem =>
      obtain ⟨past, opened⟩ := ih mem
      exact ⟨past, opened.later e⟩
    | rotated old mem token expires within eq =>
      obtain ⟨past, opened⟩ := ih mem
      exact ⟨past, eq ▸ (opened.later e).rotated token _ expires⟩
    | opened login password userAgent clientIp a event answer records owner created within =>
      subst event
      exact ⟨events, .login login password userAgent clientIp a List.prefix_rfl answer records⟩

/-- A login draws the identifier of its session. -/
theorem drawn_of_admitted {a : Admission} (h : (step service σ e).1 = .ok (.admitted a)) :
    a.session = service.supply.id (σ.world.ids + 1) ∧
      (step service σ e).2.world.ids = σ.world.ids + 1 := by
  obtain ⟨login, password, userAgent, clientIp, -, ends⟩ := loginEnd_of_admitted h
  cases ends with
  | admitted u expires agent ip known fit issued within told address unique after =>
    exact ⟨rfl, after.ids_eq⟩

/-- An event comes before another one of the same run, or is that one, or comes after it. -/
theorem prefix_cases {events past other : List Event} {e e' : Event}
    (he : past ++ [e] <+: events) (he' : other ++ [e'] <+: events) :
    past ++ [e] <+: other ∨ past = other ∨ other ++ [e'] <+: past := by
  rcases List.prefix_or_prefix_of_prefix he he' with h | h
  · obtain same | h := List.prefix_concat_iff.mp h
    · exact .inr (.inl (List.append_inj_left' same rfl))
    · exact .inl h
  · obtain same | h := List.prefix_concat_iff.mp h
    · exact .inr (.inl (List.append_inj_left' same rfl).symm)
    · exact .inr (.inr h)

/-- What is drawn for one event of a run is drawn before what is drawn for a later one. -/
theorem ids_lt_of_admitted {past other : List Event} {a : Admission}
    (answer : (step service (run service σ past) e).1 = .ok (.admitted a))
    (before : past ++ [e] <+: other) :
    (run service σ past).world.ids < (run service σ other).world.ids := by
  obtain ⟨rest, rfl⟩ := before
  have drawn := (drawn_of_admitted answer).2
  have later := (run_le service (run service σ (past ++ [e])) rest).2.1
  rw [← run_append, run_concat, drawn] at later
  exact later

/-- **No two logins of a run open the same session**, as long as no draw repeats. -/
theorem login_unique {events past other : List Event} {e' : Event} {a b : Admission}
    (fresh : service.supply.Unrepeated (run service σ events).world)
    (he : past ++ [e] <+: events) (he' : other ++ [e'] <+: events)
    (answer : (step service (run service σ past) e).1 = .ok (.admitted a))
    (answer' : (step service (run service σ other) e').1 = .ok (.admitted b))
    (same : a.session = b.session) : past = other := by
  have bound {past : List Event} {e : Event} {a : Admission} (he : past ++ [e] <+: events)
      (answer : (step service (run service σ past) e).1 = .ok (.admitted a)) :
      (run service σ past).world.ids + 1 ∈ Set.Ioc 0 (run service σ events).world.ids := by
    exact ⟨Nat.succ_pos _, ids_lt_of_admitted answer he⟩
  rw [(drawn_of_admitted answer).1, (drawn_of_admitted answer').1] at same
  have count := Nat.succ.inj (fresh.ids (bound he answer) (bound he' answer') same)
  rcases prefix_cases he he' with before | rfl | after
  · exact absurd count (ids_lt_of_admitted answer before).ne
  · rfl
  · exact absurd count (ids_lt_of_admitted answer' after).ne'

/-! ## What holds of the sessions wherever a run leads -/

/-- **What holds of the sessions stored** after some events. -/
structure Orderly (service : Service) (σ : State) (events : List Event) : Prop where
  ids : (run service σ events).sessionIds.Nodup
  tokens : (run service σ events).tokens.Nodup
  drawn : service.supply.Covers (run service σ events).world
  sound : ∀ s ∈ (run service σ events).sessions, Sound service (run service σ events).world s
  outlasts : 0 < service.sessionSpan →
    ∀ s ∈ (run service σ events).sessions, s.created < s.expires
  /-- So they do if the service is made for a configuration that loads. -/
  outlasts_loaded : ∀ sources config printed, Config.load sources = .ok (config, printed) →
    Service.MadeFor config service →
      ∀ s ∈ (run service σ events).sessions, s.created < s.expires
  widths : ∀ s ∈ (run service σ events).sessions,
    s.userAgent.length ≤ 512 ∧ ∀ ip ∈ s.clientIp, ip.length ≤ 64
  /-- One login has opened the session, and no other login of the run names it. -/
  opened : ∀ s ∈ (run service σ events).sessions, ∃ past, OpenedBy service σ events s past ∧
    ∀ other e a, other ++ [e] <+: events →
      (step service (run service σ other) e).1 = .ok (.admitted a) → a.session = s.id → other = past

/-- **The sessions are in order wherever a run leads**, as long as no draw repeats. -/
theorem orderly_of_run (service : Service) (now : Instant) (threshold : Log.Level)
    (events : List Event)
    (fresh : service.supply.Unrepeated (run service (start now threshold) events).world) :
    Orderly service (start now threshold) events := by
  have keyed := run_keyed service (start_keyed now threshold) events
  have sound := sound_of_run service now threshold events
  have opened {s : Session} (hs : s ∈ (run service (start now threshold) events).sessions) :=
    openedBy_of_run rfl hs
  have outlasts (lasting : 0 < service.sessionSpan) :
      ∀ s ∈ (run service (start now threshold) events).sessions, s.created < s.expires := by
    intro s hs
    rw [(sound s hs).expires_eq]
    exact Int.lt_add_of_pos_right _ lasting
  constructor
  · exact keyed.ids
  · exact keyed.tokens
  · exact run_covers (start_covers service now threshold) events
  · exact sound
  · exact outlasts
  · intro sources config printed loaded made
    exact outlasts (made.lifetimes_pos (Config.usable_of_load loaded)).2
  · intro s hs
    obtain ⟨past, opened⟩ := opened hs
    exact opened.widths
  · intro s hs
    obtain ⟨past, opened⟩ := opened hs
    refine ⟨past, opened, fun other e a inRun' answer' same => ?_⟩
    obtain ⟨login, password, userAgent, clientIp, b, inRun, answer, records⟩ := opened
    exact login_unique fresh inRun' inRun answer' answer (same.trans records.id)

/-- The opening of a session, and a rotation of it. -/
def rotation : List Event := opening ++ [.advance 7, .lookUp "r", .complete 0]

set_option maxRecDepth 100000 in
/-- The session is stored under the next refresh token. -/
theorem rotation_rotated : (run (sample 900) (start 0 .info) rotation).world.ids = 2 ∧
    (run (sample 900) (start 0 .info) rotation).sessions =
      [firstSession.rotated "rr" 7 (7 + 15 * Instant.perDay)] := by
  decide +kernel

/-- The rotated session goes back to its login, and its dates are in order. -/
theorem rotation_orderly : (sample 900).supply.Unrepeated
      (run (sample 900) (start 0 .info) rotation).world ∧
    Orderly (sample 900) (start 0 .info) rotation := by
  have fresh : (sample 900).supply.Unrepeated
      (run (sample 900) (start 0 .info) rotation).world :=
    sample_unrepeated 900 (rotation_rotated.1 ▸ by decide)
  exact ⟨fresh, orderly_of_run (sample 900) 0 .info rotation fresh⟩

end LoginGate.Run
