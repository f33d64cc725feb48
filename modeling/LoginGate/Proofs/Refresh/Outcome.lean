import LoginGate.Proofs.Refresh.Minting
import LoginGate.Proofs.Token.Window

/-!
# Proofs/Refresh/Outcome — the three outcomes of a refresh

A refresh that is in order (`Refreshes`) is denied and changes nothing, or finds an expired session
and removes it, or finds a live one and renews it. Which of these it does is decided by the row that
is stored under the token presented, and no other row has a part in it or is changed by it.
-/

namespace LoginGate

namespace Service

variable {service : Service} {w : World} {session : Session} {token : String}

/-- **A refresh is in order**: the storage answers both times, there are dates for the next token
and the next session to expire at, and the refresh token drawn has not been drawn before. -/
structure Refreshes (service : Service) (w : World) : Prop where
  found : w.faultIn ≠ 1
  rotated : w.faultIn ≠ 2
  tokenExpiry : (Instant.plus? w.now service.signer.lifetime).isSome
  sessionExpiry : (Instant.plus? w.now service.sessionSpan).isSome
  fresh : service.supply.Unrepeated w.withToken

theorem Refreshes.date (h : service.Refreshes w) : Instant.isDate w.now = true := by
  obtain ⟨expires, within⟩ := Option.isSome_iff_exists.mp h.sessionExpiry
  exact (Instant.plus?_eq_some within).1

/-! ## The second half -/

/-- The second half deletes an expired session. -/
theorem complete_of_expired (date : Instant.isDate w.now = true)
    (expired : session.expires ≤ w.now) (answers : w.faultIn ≠ 1) (token : String) :
    (service.complete session token w).1 = .error (.denied .sessionExpired) ∧
      (service.complete session token w).2.store =
        w.store.deleteSession session.owner session.id := by
  have done := completion service session token w
  generalize service.complete session token w = p at done ⊢
  cases done with
  | swept date expired answers after => exact ⟨rfl, after.store_eq⟩
  | undated undated => exact nomatch undated.symm.trans date
  | unswept _ _ fault => exact absurd fault answers
  | overlong _ live | unrotated live | lost live | unissued live | renewed live =>
    exact absurd expired (Int.not_le.mpr live)

/-! ## Both halves -/

/-- **A refresh of no session** is denied. -/
theorem refresh_of_unknown (answers : w.faultIn ≠ 1)
    (unknown : token = "" ∨ token ∉ w.store.refreshTokens) :
    (service.refresh token w).1 = .error (.denied .invalidSession) ∧
      (service.refresh token w).2.store = w.store := by
  rw [refresh_eq_bind, Act.bind_eq_resume]
  refine inquire_induct token (w := w) (P := fun p => (Act.resume _ p).1 =
    .error (.denied .invalidSession) ∧ (Act.resume _ p).2.store = w.store) ?_ ?_ ?_ ?_
  · exact fun _ => ⟨rfl, rfl⟩
  · exact fun _ _ fault _ => absurd fault answers
  · exact fun _ _ _ _ after => ⟨rfl, after.store_eq⟩
  · intro s w' named _ found _ _
    have stored : token ∈ w.store.refreshTokens := Store.mem_refreshTokens.mpr
      ⟨s, List.mem_of_find?_eq_some found, by simpa using List.find?_some found⟩
    exact absurd unknown (not_or_intro named (not_not_intro stored))

/-- **A refresh of an expired session** deletes it. -/
theorem refresh_of_expired (keyed : w.store.Keyed) (stored : session ∈ w.store.sessions)
    (named : session.refreshToken ≠ "") (expired : session.expires ≤ w.now)
    (refreshes : service.Refreshes w) :
    (service.refresh session.refreshToken w).1 = .error (.denied .sessionExpired) ∧
      (service.refresh session.refreshToken w).2.store =
        w.store.deleteSession session.owner session.id := by
  have found := refreshes.found
  have rotated := refreshes.rotated
  obtain ⟨w', after, countdown, halves⟩ := refresh_of_mem service keyed stored named found
  rw [halves, ← after.store_eq]
  exact complete_of_expired (after.now_eq ▸ refreshes.date) (after.now_eq ▸ expired) (by omega) _

/-- **A refresh of a live session** rotates it and hands out a new pair of tokens. -/
theorem refresh_of_live (keyed : w.store.Keyed) (covers : service.supply.Covers w)
    (canSign : service.signer.CanSign) (stored : session ∈ w.store.sessions)
    (named : session.refreshToken ≠ "") (live : w.now < session.expires)
    (refreshes : service.Refreshes w) :
    ∃ accessToken, service.signer.issue session.owner w.now = .ok accessToken ∧
      (service.refresh session.refreshToken w).1 =
        .ok ⟨accessToken, service.supply.token (w.tokens + 1)⟩ ∧
      (service.refresh session.refreshToken w).2.store =
        w.store.rotate (service.renewal session w (w.now + service.sessionSpan))
          session.refreshToken := by
  obtain ⟨found, rotated, tokenExpiry, sessionExpiry, fresh⟩ := refreshes
  obtain ⟨w', after, countdown, halves⟩ := refresh_of_mem service keyed stored named found
  have renewal (expires : Instant) :
      service.renewal session w expires = service.renewal session w' expires := by
    rw [renewal, renewal, after.now_eq, after.tokens_eq]
  rw [halves, renewal, ← after.store_eq, ← after.now_eq, ← after.tokens_eq]
  obtain ⟨returns, rotated⟩ := complete_of_live (Effect.covers (.of_quiet after) covers)
    (after.store_eq ▸ stored) (after.now_eq ▸ live) (by omega) (after.now_eq ▸ sessionExpiry)
    (fresh.anti (Nat.le_of_eq after.ids_eq) (Nat.le_of_eq (congrArg (· + 1) after.tokens_eq)))
  obtain ⟨expiry, dated⟩ := Option.isSome_iff_exists.mp (after.now_eq ▸ tokenExpiry)
  obtain ⟨accessToken, issued⟩ := canSign.issue dated session.owner
  rw [issued] at returns
  exact ⟨accessToken, issued, returns, rotated.store_eq⟩

/-- **The outcome of a refresh.** -/
structure Outcome (service : Service) (token : String) (w : World) : Prop where
  /-- Without a session stored under the token it is denied, and nothing changes. -/
  denied : token = "" ∨ token ∉ w.store.refreshTokens →
    (service.refresh token w).1 = .error (.denied .invalidSession) ∧
      (service.refresh token w).2.store = w.store
  /-- An expired session is removed, and nothing else changes. -/
  removed : ∀ before s after, w.store.sessions = before ++ s :: after → s.refreshToken = token →
    token ≠ "" → s.expires ≤ w.now →
      (service.refresh token w).1 = .error (.denied .sessionExpired) ∧
        (service.refresh token w).2.store = { w.store with sessions := before ++ after }
  /-- A live session gets a refresh token that has never been drawn and is stored nowhere, and new
  dates; nothing else changes. The access token is verified as the owner's until it expires. -/
  renewed : ∀ before s after, w.store.sessions = before ++ s :: after → s.refreshToken = token →
    token ≠ "" → w.now < s.expires → ∃ pair : TokenPair,
      (service.refresh token w).1 = .ok pair ∧
      pair.refreshToken ∉ service.supply.tokensDrawn w ∧
      pair.refreshToken ∉ w.store.refreshTokens ∧
      (service.refresh token w).2.store = { w.store with
        sessions := before ++
          { s with
            refreshToken := pair.refreshToken
            created := w.now
            expires := w.now + service.sessionSpan } :: after } ∧
      (service.signer.issuer ≠ some "" → ∀ t, Instant.isDate t = true → w.now ≤ t →
        (service.signer.verify pair.accessToken t = .ok s.owner ↔
          Instant.clockSecond t < Instant.second (w.now + service.signer.lifetime)))
  /-- It has not expired as soon as it is handed out, unless the clock rounds its lifetime away. -/
  lasting : w.now.natAbs < 2 ^ 34 * 1000000 ∧ Instant.perSecond ≤ service.signer.lifetime ∨
    2 * Instant.perSecond ≤ service.signer.lifetime →
      Instant.clockSecond w.now < Instant.second (w.now + service.signer.lifetime)

end Service

namespace Run

/-- **Every refresh in order has one of three outcomes**, wherever a run has led. -/
theorem refresh_outcome {service : Service} {σ : State} (reachable : Reachable service σ)
    (refreshes : service.Refreshes σ.world) (token : String) :
    service.Outcome token σ.world := by
  have keyed := reachable.keyed
  have covers := reachable.covers
  constructor
  · exact Service.refresh_of_unknown refreshes.found
  · rintro before s after split rfl named expired
    have stored : s ∈ σ.world.store.sessions := split ▸ List.mem_append_right _ List.mem_cons_self
    have outcome := Service.refresh_of_expired keyed stored named expired refreshes
    rwa [keyed.deleteSession_split split] at outcome
  · rintro before s after split rfl named live
    have stored : s ∈ σ.world.store.sessions := split ▸ List.mem_append_right _ List.mem_cons_self
    obtain ⟨accessToken, issued, returns, rotated⟩ := Service.refresh_of_live keyed covers
      (reachable.canSign s stored) stored named live refreshes
    have new : service.supply.token (σ.world.tokens + 1) ∉ service.supply.tokensDrawn σ.world :=
      refreshes.fresh.next_token_notMem (Nat.lt_succ_self _)
    have free : service.supply.token (σ.world.tokens + 1) ∉ σ.world.store.refreshTokens :=
      covers.next_token_notMem refreshes.fresh (Nat.lt_succ_self _)
    have rotatable : Store.isRotatable (service.renewal s σ.world
        (σ.world.now + service.sessionSpan)) s.refreshToken s = true :=
      Store.isRotatable_iff.mpr ⟨rfl, rfl, rfl⟩
    refine ⟨_, returns, new, free, ?_, fun issuer t date later => ?_⟩
    · exact rotated.trans (keyed.rotate_split split rotatable)
    · obtain ⟨expiry, within⟩ := Option.isSome_iff_exists.mp refreshes.tokenExpiry
      obtain ⟨-, -, rfl⟩ := Instant.plus?_eq_some within
      exact Signer.verify_eq_ok_iff_of_issue issuer issued within date later
  · exact Instant.clockSecond_lt_second_add refreshes.date

/-- A login, a microsecond before its session expires. -/
def ending : State :=
  run (sample 900) (start 0 .info) (opening ++ [.advance (15 * 86400000000 - 1)])

set_option maxRecDepth 100000 in
theorem ending_spec : ending.sessions = [firstSession] ∧
    ending.world.now = 15 * Instant.perDay - 1 ∧ ending.world.faultIn = 0 ∧
    ending.world.withToken.ids < 1 <<< 128 := by
  decide +kernel

/-- At the last moment the session is renewed for another fifteen days. -/
theorem ending_renewed : Reachable (sample 900) ending ∧
    (sample 900).Refreshes ending.world ∧ (sample 900).Outcome "r" ending.world ∧
    ∃ pair : TokenPair, ((sample 900).refresh "r" ending.world).1 = .ok pair ∧
      (sample 900).signer.verify pair.accessToken ending.world.now = .ok (Uuid.ofNat 1) := by
  obtain ⟨sessions, now, calm, few⟩ := ending_spec
  have reachable : Reachable (sample 900) ending := reachable_run ..
  have refreshes : (sample 900).Refreshes ending.world :=
    { found := calm ▸ by decide
      rotated := calm ▸ by decide
      tokenExpiry := now ▸ by decide
      sessionExpiry := now ▸ by decide
      fresh := sample_unrepeated 900 few }
  have outcome := refresh_outcome reachable refreshes "r"
  have live : ending.world.now < firstSession.expires := now ▸ by decide
  obtain ⟨pair, returns, -, -, -, verified⟩ :=
    outcome.renewed [] firstSession [] sessions rfl (by decide) live
  refine ⟨reachable, refreshes, outcome, pair, returns, ?_⟩
  refine (verified (by decide) _ refreshes.date le_rfl).mpr (outcome.lasting (.inr ?_))
  decide

/-- A login with access tokens of one second, ten microseconds before the end of a second in the
year 9000. -/
def rounded : State := run (sample 1) (start 221845392899999990 .info) opening

set_option maxRecDepth 100000 in
theorem rounded_spec : rounded.sessions.map (fun s => (s.refreshToken, s.expires)) =
      [("r", 221846688899999990)] ∧
    rounded.world.now = 221845392899999990 ∧ rounded.world.faultIn = 0 ∧
    rounded.world.withToken.ids < 1 <<< 128 := by
  decide +kernel

/-- **The access token of a refresh can be over at once**: the session is live, and the refresh is
in order and hands out a pair, but the clock rounds away the second for which the access token is
good. -/
theorem rounded_expired : Reachable (sample 1) rounded ∧ (sample 1).Refreshes rounded.world ∧
    ∃ s ∈ rounded.sessions, s.refreshToken = "r" ∧ rounded.world.now < s.expires ∧
      ∃ pair : TokenPair, ((sample 1).refresh "r" rounded.world).1 = .ok pair ∧
        (sample 1).signer.verify pair.accessToken rounded.world.now =
          .error (.denied .tokenExpired) := by
  obtain ⟨sessions, now, calm, few⟩ := rounded_spec
  have reachable : Reachable (sample 1) rounded := reachable_run ..
  have refreshes : (sample 1).Refreshes rounded.world :=
    { found := calm ▸ by decide
      rotated := calm ▸ by decide
      tokenExpiry := now ▸ by decide
      sessionExpiry := now ▸ by decide
      fresh := sample_unrepeated 1 few }
  obtain ⟨s, stored, row⟩ := List.mem_map.mp (sessions ▸ List.mem_singleton_self _)
  obtain ⟨token, expires⟩ := Prod.mk.inj row
  have live : rounded.world.now < s.expires := by
    rw [now, expires]
    decide
  obtain ⟨accessToken, issued, returns, -⟩ := Service.refresh_of_live reachable.keyed
    reachable.covers (reachable.canSign s stored) stored (token ▸ by decide) live refreshes
  rw [token] at returns
  refine ⟨reachable, refreshes, s, stored, token, live, _, returns, ?_⟩
  have within : Instant.plus? rounded.world.now (sample 1).signer.lifetime =
      some 221845392900999990 := now ▸ rfl
  have shown : Instant.clockSecond rounded.world.now = 221845392900 := by
    rw [now]
    decide +kernel
  rw [Signer.verify_eq_verdict (by decide) issued within refreshes.date, shown, now]
  rfl

end Run
end LoginGate
