import LoginGate.Proofs.Clock
import LoginGate.Proofs.Run.Ledger

/-!
# Proofs/Refresh/Revocation — a session that is ended is ended for good

A log-out deletes rows, and refreshes know sessions from earlier reads. Nothing under the identifier
of an ended session is stored again, so whatever token it ever had, a refresh that presents it finds
nothing to rotate, even one that read the session before the log-out.
-/

namespace LoginGate

namespace Service

variable {service : Service} {w : World}

/-- A log-out that returns has deleted what it names. -/
theorem LogoutEnd.yields {change : Store → Store} {p : Except Failure Unit × World}
    (ends : LogoutEnd change w p) (h : p.1 = .ok ()) : w.Yields (change w.store) p.2 := by
  cases ends with
  | failed after => exact nomatch h
  | ended after => exact after

/-- The first half of a refresh is denied for a token that is not stored, unless the storage does
not answer. -/
theorem inquire_of_notMem {token : String} (gone : token ∉ w.store.refreshTokens) :
    ∃ x, (inquire token w).1 = .error x ∧ ((∃ d, x = .denied d) ∨ w.faultIn = 1) := by
  refine inquire_induct token
    (P := fun p => ∃ x, p.1 = .error x ∧ ((∃ d, x = .denied d) ∨ w.faultIn = 1)) ?_ ?_ ?_ ?_
  · exact fun _ => ⟨_, rfl, .inl ⟨_, rfl⟩⟩
  · exact fun w' _ hf _ => ⟨_, rfl, .inr hf⟩
  · exact fun w' _ _ _ _ => ⟨_, rfl, .inl ⟨_, rfl⟩⟩
  · intro s w' _ _ hs _ _
    have mem := List.mem_of_find?_eq_some hs
    have same : s.refreshToken = token := by simpa using List.find?_some hs
    exact absurd (Store.mem_refreshTokens.mpr ⟨s, mem, same⟩) gone

/-- **The second half of a refresh is denied** if no session goes by the identifier that was read,
unless the next session would outlast all dates or the storage does not answer. -/
theorem complete_of_notMem (service : Service) (token : String) {session : Session}
    (gone : session.id ∉ w.store.sessionIds) :
    ∃ x, (service.complete session token w).1 = .error x ∧
      ((Instant.plus? w.now service.sessionSpan).isSome →
        (∃ d, x = .denied d) ∨ w.faultIn = 1) := by
  have unrotatable : w.store.canRotate session token ≠ true := by
    intro there
    obtain ⟨t, ht, id, -⟩ := Store.canRotate_iff.mp there
    exact gone (Store.mem_sessionIds.mpr ⟨t, ht, id⟩)
  have done := completion service session token w
  generalize service.complete session token w = p at done ⊢
  cases done with
  | undated date after =>
    refine ⟨_, rfl, fun within => ?_⟩
    obtain ⟨expires, within⟩ := Option.isSome_iff_exists.mp within
    exact nomatch date.symm.trans (Instant.plus?_eq_some within).1
  | unswept date expired fault after => exact ⟨_, rfl, fun _ => .inr fault⟩
  | overlong date live beyond after =>
    rw [beyond]
    exact ⟨_, rfl, fun within => nomatch within⟩
  | unrotated live within why after =>
    refine ⟨_, rfl, fun _ => .inr ?_⟩
    obtain fault | ⟨there, -⟩ := why
    · exact fault
    · exact absurd there unrotatable
  | swept | lost => exact ⟨_, rfl, fun _ => .inl ⟨_, rfl⟩⟩
  | unissued _ _ _ there | renewed _ _ _ there => exact absurd there unrotatable

end Service

namespace Run

variable {service : Service} {σ : State}

/-- The log-outs that end a session: of it alone, and of all sessions of its owner. -/
inductive Revokes (s : Session) : Event → Prop where
  | one : Revokes s (.logout s.owner s.id)
  | all : Revokes s (.logoutAll s.owner)

/-- An event is half of a refresh that presents a token. -/
inductive Presents (σ : State) (t : String) : Event → Prop where
  | lookUp : Presents σ t (.lookUp t)
  | complete (index : Nat) (p : Pending) (at_index : σ.pending[index]? = some p)
    (token : p.token = t) : Presents σ t (.complete index)

/-- What is left of some sessions once one of them has been ended in some way. -/
def spared (s : Session) (sessions : List Session) : Event → List Session
  | .logoutAll _ => sessions.filter (·.owner ≠ s.owner)
  | _ => sessions.filter (·.id ≠ s.id)

/-- A log-out has nothing to answer but that it has returned. -/
theorem ended_of_isOk {user session : Uuid}
    (h : (step service σ (.logout user session)).1.isOk = true) :
    (step service σ (.logout user session)).1 = .ok .ended := by
  change (Except.map _ (Service.logout user session σ.world).1).isOk = true at h
  change Except.map _ (Service.logout user session σ.world).1 = _
  generalize (Service.logout user session σ.world).1 = x at h ⊢
  cases x with
  | error e => exact nomatch h
  | ok => rfl

/-- **A log-out that returns deletes what it names** and nothing else. -/
theorem store_of_revokes {H : Set Session} (ledger : Ledger service H σ) {s : Session} (hs : s ∈ H)
    {e : Event} (revokes : Revokes s e) (returned : (step service σ e).1 = .ok .ended) :
    (step service σ e).2.world.store =
      { σ.world.store with sessions := spared s σ.sessions e } := by
  cases revokes with
  | one =>
    obtain ⟨⟨⟩, ok, -⟩ := State.ok_of_after returned
    refine ((Service.logoutEnd s.owner s.id σ.world).yields ok).store_eq.trans ?_
    unfold Store.deleteSession spared
    congr 1
    refine List.filter_congr fun r hr => ?_
    by_cases same : r.id = s.id
    · have owner := ledger.one_owner r (ledger.stored r hr) s hs same
      simp [same, owner]
    · simp [same]
  | all =>
    obtain ⟨⟨⟩, ok, -⟩ := State.ok_of_after returned
    refine ((Service.logoutAllEnd s.owner σ.world).yields ok).store_eq.trans ?_
    unfold Store.deleteSessions spared
    congr 1
    refine List.filter_congr fun r _ => ?_
    by_cases same : r.owner = s.owner
    · simp [same]
    · simp [same]

/-- A session that has been ended is closed. -/
theorem closed_of_revokes {H : Set Session} (ledger : Ledger service H σ) {s : Session} (hs : s ∈ H)
    {e : Event} (revokes : Revokes s e) (returned : (step service σ e).1 = .ok .ended) :
    service.supply.Closed s.id (step service σ e).2.world := by
  refine ⟨Supply.idsDrawn_mono (step_le service σ e).2.1 (ledger.ids s hs), fun mem => ?_⟩
  obtain ⟨r, hr, same⟩ := Store.mem_sessionIds.mp mem
  rw [store_of_revokes ledger hs revokes returned] at hr
  cases revokes with
  | one =>
    have other := (List.mem_filter.mp hr).2
    simp [same] at other
  | all =>
    obtain ⟨hr, other⟩ := List.mem_filter.mp hr
    have owner := ledger.one_owner r (ledger.stored r hr) s hs same
    simp [owner] at other

/-- Half of a refresh that presents a token of a closed session fails. -/
theorem refused_of_closed {H : Set Session} (ledger : Ledger service H σ) {s : Session} (hs : s ∈ H)
    (closed : service.supply.Closed s.id σ.world) {f : Event}
    (presents : Presents σ s.refreshToken f) :
    ∃ x, (step service σ f).1 = .error x ∧
      ((Instant.plus? σ.world.now service.sessionSpan).isSome →
        (∃ d, x = .denied d) ∨ σ.world.faultIn = 1) := by
  cases presents with
  | lookUp =>
    have gone : s.refreshToken ∉ σ.tokens := by
      intro mem
      obtain ⟨r, hr, same⟩ := Store.mem_refreshTokens.mp mem
      have id := ledger.one_session r (ledger.stored r hr) s hs same
      exact closed.gone (Store.mem_sessionIds.mpr ⟨r, hr, id⟩)
    obtain ⟨x, hx, why⟩ := Service.inquire_of_notMem gone
    refine ⟨x, ?_, fun _ => why⟩
    change (σ.begun s.refreshToken (Service.inquire s.refreshToken σ.world)).1 = _
    generalize Service.inquire s.refreshToken σ.world = q at hx ⊢
    rcases q with ⟨e | session, w⟩
    · exact congrArg Except.error (Except.error.inj hx)
    · exact nomatch hx
  | complete index p at_index token =>
    obtain ⟨mem, own⟩ := ledger.underWay p (List.mem_of_getElem? at_index)
    have id := ledger.one_session p.session mem s hs (own.trans token)
    obtain ⟨x, hx, why⟩ := Service.complete_of_notMem service p.token
      (id ▸ closed.gone : p.session.id ∉ σ.world.store.sessionIds)
    refine ⟨x, ?_, why⟩
    rw [step_complete at_index]
    change Except.map _ (service.complete p.session p.token σ.world).1 = _
    rw [hx]
    rfl

/-- **What it is for a session to be ended for good** by an event of a run, seen from some time
after that event. -/
structure Finished (service : Service) (σ : State) (before : List Event) (e : Event)
    (after : List Event) (s : Session) : Prop where
  /-- No session is stored under its identifier. -/
  gone : s.id ∉ (run service σ (before ++ e :: after)).sessionIds
  /-- Half of a refresh that presents a token which was ever handed out or stored for it fails. The
  failure is a denial, unless the next session would outlast all dates, or the run has made the
  storage fail just then. -/
  refused : ∀ t, (Issued service σ s.id (before ++ e :: after) t ∨
      ∃ r ∈ ever service σ (before ++ e :: after), r.id = s.id ∧ r.refreshToken = t) →
    ∀ f, Presents (run service σ (before ++ e :: after)) t f →
      ∃ x, (step service (run service σ (before ++ e :: after)) f).1 = .error x ∧
        ((Instant.plus? (run service σ (before ++ e :: after)).world.now
            service.sessionSpan).isSome →
          (∃ d, x = .denied d) ∨ (run service σ (before ++ e :: after)).world.faultIn = 1 ∧
            ∃ calls, Event.fault calls ∈ before ++ e :: after)
  /-- The event itself has left everything else in the tables as it was. -/
  spares : (run service σ (before ++ [e])).world.store =
    { (run service σ before).world.store with
      sessions := spared s (run service σ before).sessions e }

/-- **Revocation is final**: once a log-out that names a session has returned, the session is ended
for good, whatever comes next and whatever refreshes were under way, as long as no draw repeats. -/
theorem revocation_final (service : Service) (now : Instant) (threshold : Log.Level)
    (before : List Event) (e : Event) (after : List Event)
    (fresh : service.supply.Unrepeated
      (run service (start now threshold) (before ++ e :: after)).world)
    {s : Session} (stored : s ∈ ever service (start now threshold) before)
    (revokes : Revokes s e)
    (returned : (step service (run service (start now threshold) before) e).1 = .ok .ended) :
    Finished service (start now threshold) before e after s := by
  have ledger := ledger_of_run fresh
  have split := fresh
  rw [run_append, run_cons] at split
  have earlier : service.supply.Unrepeated (run service (start now threshold) before).world :=
    unrepeated_of_run [e] (unrepeated_of_run after split)
  have ledger₀ := ledger_of_run earlier
  have closed : service.supply.Closed s.id
      (run service (start now threshold) (before ++ e :: after)).world := by
    rw [run_append, run_cons]
    exact run_closed split (closed_of_revokes ledger₀ stored revokes returned)
  constructor
  · exact closed.gone
  · intro t had f presents
    have known := had.elim (fun issued => ever_of_issued issued fresh) id
    obtain ⟨r, hr, same, rfl⟩ := known
    obtain ⟨x, hx, why⟩ := refused_of_closed ledger hr (same ▸ closed) presents
    refine ⟨x, hx, fun within => (why within).imp_right fun fault => ⟨fault, ?_⟩⟩
    by_contra faultless
    have none := run_faultIn service (σ := start now threshold)
      (fun calls mem => faultless ⟨calls, mem⟩) rfl
    exact Nat.zero_ne_one (none.symm.trans fault)
  · rw [run_concat]
    exact store_of_revokes ledger₀ stored revokes returned

/-- A login, and a refresh under way. -/
def entrance : List Event := opening ++ [.lookUp "r"]

/-- A log-out of the first session. -/
def parting : Event := .logout firstSession.owner firstSession.id

set_option maxRecDepth 100000 in
theorem parting_returns : firstSession ∈ (run (sample 900) (start 0 .info) opening).sessions ∧
    (step (sample 900) (run (sample 900) (start 0 .info) entrance) parting).1.isOk = true ∧
    (run (sample 900) (start 0 .info) (entrance ++ [parting])).world.ids < 1 <<< 128 ∧
    (run (sample 900) (start 0 .info) (entrance ++ [parting])).pending[0]?.map (·.token) =
      some firstSession.refreshToken := by
  decide +kernel

/-- The refresh under way presents a token of the session that has been ended. -/
theorem firstSession_finished :
    Presents (run (sample 900) (start 0 .info) (entrance ++ [parting]))
        firstSession.refreshToken (.complete 0) ∧
      Finished (sample 900) (start 0 .info) entrance parting [] firstSession := by
  obtain ⟨stored, returns, few, under_way⟩ := parting_returns
  obtain ⟨p, at_index, token⟩ := Option.map_eq_some_iff.mp under_way
  have ever_stored : firstSession ∈ ever (sample 900) (start 0 .info) entrance :=
    ⟨opening, List.prefix_append .., stored⟩
  have fresh := sample_unrepeated 900 few
  exact ⟨.complete 0 p at_index token, revocation_final (sample 900) 0 .info entrance parting
    [] fresh ever_stored .one (ended_of_isOk returns)⟩

end Run
end LoginGate
