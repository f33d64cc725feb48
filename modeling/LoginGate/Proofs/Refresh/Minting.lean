import LoginGate.Proofs.Clock
import LoginGate.Proofs.Refresh.SingleUse
import LoginGate.Proofs.Signing

/-!
# Proofs/Refresh/Minting — refreshes that fail after the rotation

A refresh rotates its session first and makes the access token afterwards. Whoever holds a stored
session has been issued an access token at least once, so the secret is fit to sign with; what can
still fail is the expiry of the new access token, which may lie beyond all dates. The rotation has
been committed by then, and the new refresh token is handed out to no one.
-/

namespace LoginGate

namespace Service

variable {service : Service} {w : World} {session : Session}

/-- A stored session is the one that is found by its token. -/
theorem sessionByToken?_of_mem (keyed : w.store.Keyed) (stored : session ∈ w.store.sessions) :
    w.store.sessionByToken? session.refreshToken = some session := by
  cases found : w.store.sessionByToken? session.refreshToken with
  | none =>
    have unequal := List.find?_eq_none.mp found session stored
    simp at unequal
  | some s =>
    have mem := List.mem_of_find?_eq_some found
    have same : s.refreshToken = session.refreshToken := by simpa using List.find?_some found
    rw [keyed.eq_of_token mem stored same]

/-- **A refresh that goes too far**: the storage answers it both times, and there is a date for the
next session to expire at but none for the access token. -/
structure Overreaches (service : Service) (token : String) (w : World) : Prop where
  named : token ≠ ""
  found : w.faultIn ≠ 1
  rotated : w.faultIn ≠ 2
  within : (Instant.plus? w.now service.sessionSpan).isSome
  beyond : Instant.plus? w.now service.signer.lifetime = none

/-- No refresh goes too far if access tokens do not outlast sessions. -/
theorem not_overreaches {token : String} (positive : 0 ≤ service.signer.lifetime)
    (short : service.signer.lifetime ≤ service.sessionSpan) : ¬ service.Overreaches token w := by
  intro h
  have within := h.within
  have beyond := h.beyond
  unfold Instant.plus? Instant.isDate at within beyond
  simp only [Bool.and_eq_true, decide_eq_true_eq, Option.isSome_ite, ite_eq_right_iff,
    reduceCtorEq, imp_false, not_and, not_le] at within beyond
  obtain ⟨⟨first, last⟩, -, bound⟩ := within
  have later := beyond ⟨first, last⟩ (Int.le_trans first (Int.le_add_of_nonneg_right positive))
  exact absurd later (Int.not_lt.mpr (Int.le_trans (Int.add_le_add_left short w.now) bound))

/-- What a refresh that overreaches finds in its second half. -/
theorem complete_of_burn (canSign : service.signer.CanSign) (live : w.now < session.expires)
    {e : Failure} (failed : (service.complete session session.refreshToken w).1 = .error e)
    (changed : (service.complete session session.refreshToken w).2.store.sessions ≠
      w.store.sessions) :
    w.faultIn ≠ 1 ∧ (Instant.plus? w.now service.sessionSpan).isSome ∧
      Instant.plus? w.now service.signer.lifetime = none := by
  have done := completion service session session.refreshToken w
  generalize service.complete session session.refreshToken w = p at done failed changed
  cases done with
  | swept date expired answers after => exact absurd expired (Int.not_le.mpr live)
  | unissued live within answers there free issue after =>
    refine ⟨answers, within ▸ rfl, ?_⟩
    by_contra dated
    obtain ⟨expiry, dated⟩ := Option.ne_none_iff_exists'.mp dated
    obtain ⟨accessToken, issued⟩ := canSign.issue dated session.owner
    exact nomatch issue.symm.trans issued
  | renewed => exact nomatch failed
  | undated _ after | unswept _ _ _ after | overlong _ _ _ after | unrotated _ _ _ after
  | lost _ _ _ _ after => exact absurd (congrArg _ after.store_eq) changed

/-- A token that has just been drawn is held by no one. -/
theorem isTokenHeld_renewal (covers : service.supply.Covers w)
    (fresh : service.supply.Unrepeated w.withToken) (expires : Instant) (token : String) :
    w.store.isTokenHeld (service.renewal session w expires) token = false := by
  refine Bool.eq_false_iff.mpr fun held => ?_
  obtain ⟨t, ht, holds⟩ := List.any_eq_true.mp held
  have same : t.refreshToken = service.supply.token (w.tokens + 1) :=
    beq_iff_eq.mp (Bool.and_eq_true_iff.mp holds).1
  exact covers.next_token_notMem fresh (Nat.lt_succ_self _)
    (Store.mem_refreshTokens.mpr ⟨t, ht, same⟩)

/-- The second half draws one token for a live session, and no identifier. -/
theorem drawn_of_live (service : Service) (date : Instant.isDate w.now = true)
    (live : w.now < session.expires) (token : String) :
    (service.complete session token w).2.ids = w.withToken.ids ∧
      (service.complete session token w).2.tokens = w.withToken.tokens := by
  have done := completion service session token w
  generalize service.complete session token w = p at done ⊢
  cases done with
  | undated undated => exact nomatch undated.symm.trans date
  | unswept _ expired | swept _ expired => exact absurd expired (Int.not_le.mpr live)
  | overlong _ _ _ after | unrotated _ _ _ after | lost _ _ _ _ after
  | unissued _ _ _ _ _ _ after | renewed _ _ _ _ _ _ after =>
    exact ⟨after.ids_eq, after.tokens_eq⟩

/-- **The second half rotates a live session** if the storage answers, there is a date for the next
session to expire at, and the token drawn has not come up before. What it returns is up to the
access token, which is made afterwards. -/
theorem complete_of_live (covers : service.supply.Covers w) (stored : session ∈ w.store.sessions)
    (live : w.now < session.expires) (answers : w.faultIn ≠ 1)
    (within : (Instant.plus? w.now service.sessionSpan).isSome)
    (fresh : service.supply.Unrepeated w.withToken) :
    (service.complete session session.refreshToken w).1 =
        (service.signer.issue session.owner w.now).map
          (⟨·, service.supply.token (w.tokens + 1)⟩) ∧
      w.withToken.Yields (w.store.rotate
        (service.renewal session w (w.now + service.sessionSpan)) session.refreshToken)
        (service.complete session session.refreshToken w).2 := by
  have rotatable : w.store.canRotate session session.refreshToken = true :=
    Store.canRotate_iff.mpr ⟨session, stored, rfl, rfl, rfl⟩
  have done := completion service session session.refreshToken w
  generalize service.complete session session.refreshToken w = p at done ⊢
  cases done with
  | unissued live within answers there free issue after
  | renewed live within answers there free issue after =>
    obtain ⟨-, -, rfl⟩ := Instant.plus?_eq_some within
    rw [issue]
    exact ⟨rfl, after⟩
  | undated date after =>
    obtain ⟨expires, within⟩ := Option.isSome_iff_exists.mp within
    exact nomatch date.symm.trans (Instant.plus?_eq_some within).1
  | unswept _ expired | swept _ expired => exact absurd expired (Int.not_le.mpr live)
  | overlong date live overlong after => exact nomatch overlong ▸ within
  | unrotated live within why after =>
    obtain fault | ⟨-, held⟩ := why
    · exact absurd fault answers
    · exact nomatch held.symm.trans (isTokenHeld_renewal covers fresh _ _)
  | lost live within answers gone after => exact nomatch gone.symm.trans rotatable

/-- A rotation that no access token can follow is committed all the same. -/
theorem burn_of_complete (keyed : w.store.Keyed) (covers : service.supply.Covers w)
    (stored : session ∈ w.store.sessions) (live : w.now < session.expires)
    (fresh : service.supply.Unrepeated (service.complete session session.refreshToken w).2)
    (answers : w.faultIn ≠ 1) (within : (Instant.plus? w.now service.sessionSpan).isSome)
    (beyond : Instant.plus? w.now service.signer.lifetime = none) :
    (∃ e, (service.complete session session.refreshToken w).1 = .error e) ∧
      (service.complete session session.refreshToken w).2.store.sessions ≠ w.store.sessions := by
  obtain ⟨expires, dated⟩ := Option.isSome_iff_exists.mp within
  have date := (Instant.plus?_eq_some dated).1
  obtain ⟨ids, tokens⟩ := drawn_of_live service date live session.refreshToken
  obtain ⟨returns, after⟩ :=
    complete_of_live covers stored live answers within (fresh.anti ids.ge tokens.ge)
  rw [Signer.issue_of_overlong beyond] at returns
  refine ⟨⟨_, returns⟩, fun same => ?_⟩
  have there : w.store.canRotate session session.refreshToken = true :=
    Store.canRotate_iff.mpr ⟨session, stored, rfl, rfl, rfl⟩
  have spent := spent_of_rotate there after keyed covers fresh
  refine spent.gone (Store.mem_refreshTokens.mpr ⟨session, ?_, rfl⟩)
  rw [same]
  exact stored

/-- A refresh that the storage answers reads the session stored under its token, and goes on with
its second half in a world with the same tables. -/
theorem refresh_of_mem (service : Service) (keyed : w.store.Keyed)
    (stored : session ∈ w.store.sessions) (named : session.refreshToken ≠ "")
    (answers : w.faultIn ≠ 1) :
    ∃ w', w.Quiet w' ∧ w'.faultIn = w.faultIn - 1 ∧
      service.refresh session.refreshToken w =
        service.complete session session.refreshToken w' := by
  rw [refresh_eq_bind, Act.bind_eq_resume]
  refine inquire_induct session.refreshToken (w := w) (P := fun p => ∃ w', w.Quiet w' ∧
    w'.faultIn = w.faultIn - 1 ∧ Act.resume _ p = service.complete session session.refreshToken w')
    ?_ ?_ ?_ ?_
  · exact fun empty => absurd empty named
  · exact fun w' _ fault _ => absurd fault answers
  · intro w' _ _ unknown _
    rw [sessionByToken?_of_mem keyed stored] at unknown
    exact nomatch unknown
  · intro s w' _ _ found after countdown
    rw [sessionByToken?_of_mem keyed stored] at found
    obtain rfl := Option.some.inj found
    exact ⟨w', after, countdown, rfl⟩

/-- A refresh that the storage does not answer, or of no token, changes no session. -/
theorem sessions_of_unanswered {token : String} (h : token = "" ∨ w.faultIn = 1) :
    (service.refresh token w).2.store.sessions = w.store.sessions := by
  rw [refresh_eq_bind, Act.bind_eq_resume]
  refine inquire_induct token (w := w) (P := fun p => (Act.resume _ p).2.store.sessions =
    w.store.sessions) ?_ ?_ ?_ ?_
  · exact fun _ => rfl
  · exact fun w' _ _ after => congrArg _ after.store_eq
  · exact fun w' _ _ _ after => congrArg _ after.store_eq
  · intro s w' named answers _ _ _
    exact absurd h (not_or_intro named answers)

end Service

namespace Run

/-- **When a refresh of a live session fails and has changed the sessions all the same**: only if it
overreaches, and always if it overreaches and draws a token that has not come up before. -/
theorem burn_of_live {service : Service} {σ : State} (reachable : Reachable service σ)
    {r : Session} (stored : r ∈ σ.sessions) (live : σ.world.now < r.expires) :
    (∀ e, (service.refresh r.refreshToken σ.world).1 = .error e →
        (service.refresh r.refreshToken σ.world).2.store.sessions ≠ σ.sessions →
          service.Overreaches r.refreshToken σ.world) ∧
      (service.Overreaches r.refreshToken σ.world →
        service.supply.Unrepeated (service.refresh r.refreshToken σ.world).2 →
          (∃ e, (service.refresh r.refreshToken σ.world).1 = .error e) ∧
            (service.refresh r.refreshToken σ.world).2.store.sessions ≠ σ.sessions) := by
  have keyed := reachable.keyed
  constructor
  · intro e failed changed
    obtain ⟨named, answers⟩ := not_or.mp (mt Service.sessions_of_unanswered changed)
    obtain ⟨w', after, countdown, goes_on⟩ :=
      Service.refresh_of_mem service keyed stored named answers
    rw [goes_on] at failed changed
    have live' : w'.now < r.expires := after.now_eq ▸ live
    have changed' : (service.complete r r.refreshToken w').2.store.sessions ≠
        w'.store.sessions := by
      rw [after.store_eq]
      exact changed
    obtain ⟨second, within, beyond⟩ :=
      Service.complete_of_burn (reachable.canSign r stored) live' failed changed'
    rw [after.now_eq] at within beyond
    exact ⟨named, answers, by omega, within, beyond⟩
  · intro overreaches fresh
    obtain ⟨w', after, countdown, goes_on⟩ :=
      Service.refresh_of_mem service keyed stored overreaches.named overreaches.found
    rw [goes_on] at fresh ⊢
    have same : w'.store = σ.world.store := after.store_eq
    have second : w'.faultIn ≠ 1 := by
      have first := overreaches.found
      have second := overreaches.rotated
      omega
    have burnt := Service.burn_of_complete (same ▸ keyed)
      ((Effect.of_quiet after).covers reachable.covers) (same ▸ stored) (after.now_eq ▸ live)
      fresh second (after.now_eq ▸ overreaches.within) (after.now_eq ▸ overreaches.beyond)
    rw [same] at burnt
    exact burnt

/-- A service whose access tokens last from the start of 1970 to the last second of all dates. -/
def lasting : Service := sample 253402300799

/-- A login at the start of 1970, and a second later. -/
def belated : State := run lasting (start 0 .info) (opening ++ [.advance 1000000])

set_option maxRecDepth 100000 in
/-- The session is live, and there is a date for the next one to expire at but none for the access
token; the refresh fails and changes the sessions. -/
theorem belated_fails : (firstSession ∈ belated.sessions ∧
      belated.world.now < firstSession.expires) ∧
    (belated.world.faultIn = 0 ∧
      (Instant.plus? belated.world.now lasting.sessionSpan).isSome ∧
      Instant.plus? belated.world.now lasting.signer.lifetime = none) ∧
    (lasting.refresh firstSession.refreshToken belated.world).2.ids < 1 <<< 128 ∧
    (lasting.refresh firstSession.refreshToken belated.world).1.isOk = false ∧
    (lasting.refresh firstSession.refreshToken belated.world).2.store.sessions ≠
      belated.sessions := by
  decide +kernel

/-- The access token of a second login would outlast all dates, and so would that of a refresh. -/
theorem belated_burns : Reachable lasting belated ∧
    lasting.supply.Unrepeated (lasting.refresh firstSession.refreshToken belated.world).2 ∧
    (∃ e, (lasting.refresh firstSession.refreshToken belated.world).1 = .error e) ∧
    (lasting.refresh firstSession.refreshToken belated.world).2.store.sessions ≠
      belated.sessions := by
  obtain ⟨⟨stored, live⟩, ⟨calm, within, beyond⟩, few, -⟩ := belated_fails
  have reachable : Reachable lasting belated := reachable_run ..
  have fresh : lasting.supply.Unrepeated
      (lasting.refresh firstSession.refreshToken belated.world).2 := sample_unrepeated _ few
  have burnt := (burn_of_live reachable stored live).2
    ⟨by decide, by rw [calm]; decide, by rw [calm]; decide, within, beyond⟩ fresh
  exact ⟨reachable, fresh, burnt⟩

/-- A refresh can fail with a live session and leave the sessions other than they were. -/
theorem failure_burns_live :
    ¬ ∀ r ∈ belated.sessions, belated.world.now < r.expires →
      ∀ e, (lasting.refresh r.refreshToken belated.world).1 = .error e →
        (lasting.refresh r.refreshToken belated.world).2.store.sessions = belated.sessions := by
  obtain ⟨⟨stored, live⟩, -, -, fails, changed⟩ := belated_fails
  intro always
  cases failed : (lasting.refresh firstSession.refreshToken belated.world).1 with
  | error e => exact changed (always firstSession stored live e failed)
  | ok pair => exact nomatch failed ▸ fails

end Run
end LoginGate
