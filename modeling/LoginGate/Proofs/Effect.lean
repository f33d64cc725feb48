import LoginGate.Proofs.Endings
import LoginGate.Proofs.Refresh.Halves

/-!
# Proofs/Effect — what a request does to the tables

Every request of the service, however it ends, has one of seven effects on the tables, or more
exactly on the world as far as tables, clock and draws go (`Effect`). All that is shown of runs of
the service is shown of these seven.
-/

namespace LoginGate

/-- **What a request does to the tables.** -/
inductive Effect (service : Service) (w : World) : World → Prop where
  /-- Nothing, though time may have passed and something may have been drawn. -/
  | idle {w'} (store : w'.store = w.store) (now : w.now ≤ w'.now) (ids : w.ids ≤ w'.ids)
    (tokens : w.tokens ≤ w'.tokens) (faultIn : w'.faultIn ≤ w.faultIn) : Effect service w w'
  /-- An account is added. -/
  | enrolled {w'} (u : User) (id : u.id = service.supply.id (w.ids + 1))
    (created : u.created = w.now) (unblocked : u.isBlocked = false)
    (uncrossed : w.store.hasCrossedName u = false) (unique : w.store.hasSameColumn u = false)
    (after : w.withId.Yields (w.store.addUser u) w') : Effect service w w'
  /-- The flag of an account is set. -/
  | flagged {w'} (id : Uuid) (blocked : Bool)
    (after : w.Yields (w.store.setBlocked id blocked) w') : Effect service w w'
  /-- A session is opened on an account. -/
  | opened {w'} (s : Session) (id : s.id = service.supply.id (w.ids + 1))
    (token : s.refreshToken = service.supply.token (w.tokens + 1))
    (owner : ∃ u ∈ w.store.users, u.id = s.owner) (created : s.created = w.now)
    (within : Instant.plus? w.now service.sessionSpan = some s.expires)
    (issued : ∃ accessToken, service.signer.issue s.owner w.now = .ok accessToken)
    (unique : w.store.hasSession s = false)
    (after : w.withId.withToken.Yields (w.store.addSession s) w') : Effect service w w'
  /-- A session is rotated. -/
  | rotated {w'} (session : Session) (token : String) (expires : Instant)
    (live : w.now < session.expires)
    (within : Instant.plus? w.now service.sessionSpan = some expires)
    (there : w.store.canRotate session token = true)
    (free : w.store.isTokenHeld (service.renewal session w expires) token = false)
    (after : w.withToken.Yields (w.store.rotate (service.renewal session w expires) token) w') :
    Effect service w w'
  /-- A session of an owner is deleted. -/
  | ended {w'} (owner id : Uuid) (after : w.Yields (w.store.deleteSession owner id) w') :
    Effect service w w'
  /-- All sessions of an owner are deleted. -/
  | endedAll {w'} (owner : Uuid) (after : w.Yields (w.store.deleteSessions owner) w') :
    Effect service w w'

namespace Effect

variable {service : Service} {w w' : World}

theorem of_quiet (h : w.Quiet w') : Effect service w w' :=
  .idle h.store_eq (Int.le_of_eq h.now_eq.symm) (Nat.le_of_eq h.ids_eq.symm)
    (Nat.le_of_eq h.tokens_eq.symm) h.faultIn_le

theorem drawnId : Effect service w w.withId :=
  .idle rfl (Int.le_refl _) (Nat.le_succ _) (Nat.le_refl _) (Nat.le_refl _)

theorem drawnToken : Effect service w w.withToken :=
  .idle rfl (Int.le_refl _) (Nat.le_refl _) (Nat.le_succ _) (Nat.le_refl _)

theorem drawnBoth : Effect service w w.withId.withToken :=
  .idle rfl (Int.le_refl _) (Nat.le_succ _) (Nat.le_succ _) (Nat.le_refl _)

/-- An effect that nothing but quiet steps follow. -/
theorem before_quiet {w₁ : World} (h : Effect service w w₁) (hq : w₁.Quiet w') :
    Effect service w w' := by
  cases h with
  | idle hs hn hi ht hf =>
    exact .idle (hq.store_eq.trans hs) (hq.now_eq.symm ▸ hn) (hq.ids_eq.symm ▸ hi)
      (hq.tokens_eq.symm ▸ ht) (Nat.le_trans hq.faultIn_le hf)
  | enrolled u id created unblocked uncrossed unique after =>
    exact .enrolled u id created unblocked uncrossed unique (after.quiet hq)
  | flagged id blocked after => exact .flagged id blocked (after.quiet hq)
  | opened s id token owner created within issued unique after =>
    exact .opened s id token owner created within issued unique (after.quiet hq)
  | rotated session token expires live within there free after =>
    exact .rotated session token expires live within there free (after.quiet hq)
  | ended owner id after => exact .ended owner id (after.quiet hq)
  | endedAll owner after => exact .endedAll owner (after.quiet hq)

/-- An effect that nothing but quiet steps come before. -/
theorem after_quiet {w₁ : World} (hq : w.Quiet w₁) (h : Effect service w₁ w') :
    Effect service w w' := by
  have same := hq.store_eq
  cases h with
  | idle store now ids tokens faultIn =>
    exact .idle (store.trans same) (hq.now_eq ▸ now) (hq.ids_eq ▸ ids) (hq.tokens_eq ▸ tokens)
      (Nat.le_trans faultIn hq.faultIn_le)
  | enrolled u id created unblocked uncrossed unique after =>
    rw [same] at uncrossed unique after
    exact .enrolled u (hq.ids_eq ▸ id) (created.trans hq.now_eq) unblocked uncrossed unique
      (hq.withId.trans after)
  | flagged id blocked after =>
    rw [same] at after
    exact .flagged id blocked (hq.trans after)
  | opened s id token owner created within issued unique after =>
    rw [hq.now_eq] at created within issued
    rw [same] at owner unique after
    exact .opened s (hq.ids_eq ▸ id) (hq.tokens_eq ▸ token) owner created within issued unique
      (hq.withId.withToken.trans after)
  | rotated session token expires live within there free after =>
    have renewal : service.renewal session w₁ expires = service.renewal session w expires := by
      rw [Service.renewal, Service.renewal, hq.now_eq, hq.tokens_eq]
    rw [hq.now_eq] at live within
    rw [same] at there free after
    rw [renewal] at free after
    exact .rotated session token expires live within there free (hq.withToken.trans after)
  | ended owner id after =>
    rw [same] at after
    exact .ended owner id (hq.trans after)
  | endedAll owner after =>
    rw [same] at after
    exact .endedAll owner (hq.trans after)

/-- Whatever a request does to the tables, a storage call has done. -/
theorem change (h : Effect service w w') : w.store.Change w'.store := by
  cases h with
  | idle store =>
    rw [store]
    exact .none
  | enrolled u id created unblocked uncrossed unique after =>
    rw [after.store_eq]
    exact .userAdded u uncrossed unique
  | flagged id blocked after =>
    rw [after.store_eq]
    exact .flagged id blocked
  | opened s id token owner created within issued unique after =>
    rw [after.store_eq]
    exact .sessionAdded s unique
  | rotated session token expires live within there free after =>
    rw [after.store_eq]
    exact .rotated _ token free
  | ended owner id after =>
    rw [after.store_eq]
    exact .deleted owner id
  | endedAll owner after =>
    rw [after.store_eq]
    exact .deletedAll owner

end Effect

namespace Service

variable (service : Service) (w : World)

/-! ## Requests that leave the tables alone -/

theorem isQuiet_verify (accessToken : String) : (service.verify accessToken).IsQuiet := fun w => by
  have ends := verifyEnd service accessToken w
  generalize service.verify accessToken w = p at ends ⊢
  cases ends with
  | refused after => exact after
  | accepted u signed answers known free after fault => exact after

theorem isQuiet_inquire (token : String) : (inquire token).IsQuiet := fun w =>
  inquire_induct token (P := fun p => w.Quiet p.2) (fun _ => .refl w) (fun _ _ _ h => h)
    (fun _ _ _ _ h => h) fun _ _ _ _ _ h _ => h

/-! ## Requests that change them -/

variable {service w}

theorem RegisterEnd.effect {username email password : Argument}
    {p : Except Failure Uuid × World} (h : RegisterEnd service username email password w p) :
    Effect service w p.2 := by
  cases h with
  | refused after =>
    obtain after | after := after
    · exact .of_quiet after
    · exact Effect.drawnId.before_quiet after
  | registered u secret n name address word hashed id created unblocked uncrossed unique after =>
    exact .enrolled u id created unblocked uncrossed unique after

theorem LoginEnd.effect {login password userAgent clientIp : Argument}
    {p : Except Failure Admission × World}
    (h : LoginEnd service login password userAgent clientIp w p) : Effect service w p.2 := by
  cases h with
  | refused bar after =>
    obtain after | after := after
    · exact .of_quiet after
    · exact Effect.drawnBoth.before_quiet after
  | admitted u expires agent ip known fit issued within told address unique after =>
    obtain ⟨name, -, known⟩ := Option.bind_eq_some_iff.mp known
    have owner := (Store.userByLogin?_eq_some known).1
    exact .opened (service.opening u.id w expires agent ip) rfl rfl ⟨u, owner, rfl⟩ rfl within
      ⟨_, issued⟩ unique after

/-- Whatever becomes of a refresh in its second half. -/
theorem Completion.effect {session : Session} {token : String}
    {p : Except Failure TokenPair × World} (h : Completion service session token w p) :
    Effect service w p.2 := by
  cases h with
  | undated date after => exact .of_quiet after
  | unswept date expired fault after => exact .of_quiet after
  | swept date expired answers after => exact .ended _ _ after
  | overlong date live beyond after => exact Effect.drawnToken.before_quiet after
  | unrotated live within why after => exact Effect.drawnToken.before_quiet after
  | lost live within answers gone after => exact Effect.drawnToken.before_quiet after
  | unissued live within answers there free issue after =>
    exact .rotated _ _ _ live within there free after
  | renewed live within answers there free issue after =>
    exact .rotated _ _ _ live within there free after

/-- A log-out deletes what it names, or nothing. -/
theorem LogoutEnd.effect {change : Store → Store} {p : Except Failure Unit × World}
    (h : LogoutEnd change w p)
    (deletes : ∀ {w'}, w.Yields (change w.store) w' → Effect service w w') :
    Effect service w p.2 := by
  cases h with
  | failed after => exact .of_quiet after
  | ended after => exact deletes after

theorem BlockEnd.effect {login : String} {flag : Flag} {p : Except Failure Bool × World}
    (h : BlockEnd login flag w p) : Effect service w p.2 := by
  cases h with
  | failed why after => exact .of_quiet after
  | unknown nobody after => exact .of_quiet after
  | flagged u blocked truth known after => exact .flagged u.id blocked after

end Service
end LoginGate
