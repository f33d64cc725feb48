import LoginGate.Proofs.Storage
import LoginGate.Proofs.Tables
import LoginGate.Service.Refresh

/-!
# Proofs/Refresh/Halves — how the two halves of a refresh can end

The first half (`inquire`) reads a session and changes nothing; the second (`complete`) ends in one
of eight ways, of which three change the tables (`Completion`). A refresh is the one after the other
(`refresh_eq_bind`, `refresh_induct`).
-/

namespace LoginGate

namespace Service

variable {service : Service} {w : World}

/-! ## The first half -/

/-- **The first half of a refresh**; an empty token has no session. -/
def inquire (token : String) : Act Session :=
  if token = "" then Act.fail (.denied .invalidSession) else lookUp token

/-- **A refresh is its two halves**, with nothing in between. -/
theorem refresh_eq_bind (service : Service) (token : String) :
    service.refresh token = inquire token >>= fun session => service.complete session token := by
  unfold refresh refreshFrom inquire
  split
  · rfl
  · rfl

/-- The first half changes nothing; it fails if the storage does not answer or has no session of
that token. -/
theorem inquire_induct (token : String) {P : Except Failure Session × World → Prop}
    (empty : token = "" → P (.error (.denied .invalidSession), w))
    (fault : ∀ w', token ≠ "" → w.faultIn = 1 → w.Quiet w' →
      P (.error Call.getSessionByRefreshToken.unanswered, w'))
    (unknown : ∀ w', token ≠ "" → w.faultIn ≠ 1 → w.store.sessionByToken? token = none →
      w.Quiet w' → P (.error (.denied .invalidSession), w'))
    (found : ∀ s w', token ≠ "" → w.faultIn ≠ 1 → w.store.sessionByToken? token = some s →
      w.Quiet w' → w'.faultIn = w.faultIn - 1 → P (.ok s, w')) :
    P (inquire token w) := by
  unfold inquire
  split
  · next ht => exact empty ht
  · next ht =>
    unfold lookUp
    rw [Act.orElse_eq_recover]
    refine Store.getSession_induct (P := fun p => P (Act.recover _ p)) ?_ ?_ ?_
    · exact fun w' => fault w' ht
    · intro w' hf hs hw
      exact unknown _ ht hf hs (hw.quiet (World.quiet_log _ _ _))
    · exact fun s w' => found s w' ht

/-! ## The second half -/

/-- What a session is to become when a refresh completes now. -/
def renewal (service : Service) (session : Session) (w : World) (expires : Instant) : Session :=
  session.rotated (service.supply.token (w.tokens + 1)) w.now expires

/-- **How the second half can end**, for the session that was read and the token presented. -/
inductive Completion (service : Service) (session : Session) (token : String) (w : World) :
    Except Failure TokenPair × World → Prop where
  /-- The clock shows no date. -/
  | undated {w'} (date : Instant.isDate w.now = false) (after : w.Quiet w') :
    Completion service session token w (.error .noDate, w')
  /-- The session read is expired, and the storage does not answer. -/
  | unswept {w'} (date : Instant.isDate w.now = true) (expired : session.expires ≤ w.now)
    (fault : w.faultIn = 1) (after : w.Quiet w') :
    Completion service session token w (.error Call.deleteSession.unanswered, w')
  /-- The session read is expired; what goes by its identifier and owner is deleted. -/
  | swept {w'} (date : Instant.isDate w.now = true) (expired : session.expires ≤ w.now)
    (answers : w.faultIn ≠ 1)
    (after : w.Yields (w.store.deleteSession session.owner session.id) w') :
    Completion service session token w (.error (.denied .sessionExpired), w')
  /-- The session read is live, but the next one would outlast all dates. -/
  | overlong {w'} (date : Instant.isDate w.now = true) (live : w.now < session.expires)
    (beyond : Instant.plus? w.now service.sessionSpan = none) (after : w.withToken.Quiet w') :
    Completion service session token w (.error .noDate, w')
  /-- The storage does not answer, or another session holds the token drawn. -/
  | unrotated {w' expires} (live : w.now < session.expires)
    (within : Instant.plus? w.now service.sessionSpan = some expires)
    (why : w.faultIn = 1 ∨ w.store.canRotate session token = true ∧
      w.store.isTokenHeld (service.renewal session w expires) token = true)
    (after : w.withToken.Quiet w') :
    Completion service session token w (.error Call.refreshSession.unanswered, w')
  /-- The token presented is no longer the stored one. -/
  | lost {w' expires} (live : w.now < session.expires)
    (within : Instant.plus? w.now service.sessionSpan = some expires) (answers : w.faultIn ≠ 1)
    (gone : w.store.canRotate session token = false) (after : w.withToken.Quiet w') :
    Completion service session token w (.error (.denied .invalidSession), w')
  /-- The session is rotated, but no access token can be made. -/
  | unissued {w' expires e} (live : w.now < session.expires)
    (within : Instant.plus? w.now service.sessionSpan = some expires) (answers : w.faultIn ≠ 1)
    (there : w.store.canRotate session token = true)
    (free : w.store.isTokenHeld (service.renewal session w expires) token = false)
    (issue : service.signer.issue session.owner w.now = .error e)
    (after : w.withToken.Yields (w.store.rotate (service.renewal session w expires) token) w') :
    Completion service session token w (.error e, w')
  /-- The session is rotated, and a new pair is handed out. -/
  | renewed {w' expires accessToken} (live : w.now < session.expires)
    (within : Instant.plus? w.now service.sessionSpan = some expires) (answers : w.faultIn ≠ 1)
    (there : w.store.canRotate session token = true)
    (free : w.store.isTokenHeld (service.renewal session w expires) token = false)
    (issue : service.signer.issue session.owner w.now = .ok accessToken)
    (after : w.withToken.Yields (w.store.rotate (service.renewal session w expires) token) w') :
    Completion service session token w
      (.ok ⟨accessToken, service.supply.token (w.tokens + 1)⟩, w')

/-- How a rotation can end, with the loss of the race taken as a denial. -/
theorem rotate_induct {renewed : Session} {previous : String}
    {P : Except Failure Unit × World → Prop}
    (unanswered : ∀ w', (w.faultIn = 1 ∨ w.store.canRotate renewed previous = true ∧
      w.store.isTokenHeld renewed previous = true) → w.Quiet w' →
      P (.error Call.refreshSession.unanswered, w'))
    (lost : ∀ w', w.faultIn ≠ 1 → w.store.canRotate renewed previous = false → w.Quiet w' →
      P (.error (.denied .invalidSession), w'))
    (rotated : ∀ w', w.faultIn ≠ 1 → w.store.canRotate renewed previous = true →
      w.store.isTokenHeld renewed previous = false →
      w.Yields (w.store.rotate renewed previous) w' → P (.ok (), w')) :
    P (rotate renewed previous w) := by
  unfold rotate
  rw [Act.orElse_eq_recover]
  refine Store.refreshSession_induct (P := fun p => P (Act.recover _ p)) ?_ ?_ ?_ rotated
  · exact fun w' hf hw => unanswered w' (.inl hf) hw
  · intro w' hf hc hw
    exact lost _ hf hc (hw.quiet (World.quiet_log _ _ _))
  · exact fun w' hf hc hh hw => unanswered w' (.inr ⟨hc, hh⟩) hw

/-- **The second half ends in one of these ways.** -/
theorem completion (service : Service) (session : Session) (token : String) (w : World) :
    Completion service session token w (service.complete session token w) := by
  unfold complete
  rw [Act.bind_eq_resume, Act.clock_apply]
  cases date : Instant.isDate w.now with
  | false => exact .undated date (.refl w)
  | true =>
    simp only [if_true, Act.resume_ok]
    split
    · next expired =>
      replace expired : session.expires ≤ w.now := by simpa [Session.isExpired] using expired
      rw [Act.bind_eq_resume]
      refine Store.removeSession_induct (P := fun p => Completion service session token w
        (Act.resume _ p)) (fun w' hf hw => .unswept date expired hf hw) fun w' hf hw => ?_
      exact .swept date expired hf (hw.quiet (World.quiet_log _ _ _))
    · next live =>
      replace live : w.now < session.expires := by simpa [Session.isExpired] using live
      rw [Act.bind_eq_resume, Act.drawToken_apply, Act.resume_ok, Act.bind_eq_resume,
        Act.later_apply]
      cases within : Instant.plus? w.now service.sessionSpan with
      | none => exact .overlong date live within (.refl _)
      | some expires =>
        simp only [Act.resume_ok]
        rw [Act.bind_eq_resume]
        refine rotate_induct (w := w.withToken) (P := fun p => Completion service session token w
          (Act.resume _ p)) ?_ ?_ ?_
        · exact fun w' why hw => .unrotated live within why hw
        · exact fun w' hf hc hw => .lost live within hf hc hw
        · intro w' hf hc hh hw
          have hnow : w'.now = w.now := hw.now_eq
          rw [Act.resume_ok, Act.bind_eq_resume]
          unfold issue
          rw [Act.atNow_apply, hnow]
          cases issued : service.signer.issue session.owner w.now with
          | error e => exact .unissued live within hf hc hh issued hw
          | ok accessToken =>
            exact .renewed live within hf hc hh issued (hw.quiet (World.quiet_log _ _ _))

/-- What a refresh hands out is stored, under the identifier of the session that held the token
presented. -/
theorem Completion.stored {session : Session} {token : String} {pair : TokenPair} {w' : World}
    (h : Completion service session token w (.ok pair, w')) :
    ∃ s ∈ w'.store.sessions, s.refreshToken = pair.refreshToken ∧
      ∃ old ∈ w.store.sessions, old.refreshToken = token ∧ s.id = old.id ∧ s.owner = old.owner := by
  cases h with
  | @renewed _ expires accessToken live within answers there free issue after =>
    obtain ⟨old, hold, rotated⟩ := List.any_eq_true.mp there
    have presented := (Store.isRotatable_iff.mp rotated).2.2
    refine ⟨old.rotated (service.supply.token (w.tokens + 1)) w.now expires, ?_, rfl,
      old, hold, presented, rfl, rfl⟩
    rw [after.store_eq]
    exact List.mem_map.mpr ⟨old, hold, if_pos rotated⟩

/-! ## Both halves -/

/-- **A whole refresh** is turned away with nothing changed, or completes the session found. -/
theorem refresh_induct (token : String) {P : Except Failure TokenPair × World → Prop}
    (refused : ∀ e w', w.Quiet w' → P (.error e, w'))
    (completed : ∀ s w' p, w.store.sessionByToken? token = some s → w.Quiet w' →
      Completion service s token w' p → P p) : P (service.refresh token w) := by
  rw [refresh_eq_bind, Act.bind_eq_resume]
  refine inquire_induct token (P := fun p => P (Act.resume _ p)) ?_ ?_ ?_ ?_
  · exact fun _ => refused _ _ (.refl w)
  · exact fun w' _ _ hw => refused _ w' hw
  · exact fun w' _ _ _ hw => refused _ w' hw
  · exact fun s w' _ _ found hw _ => completed s w' _ found hw (completion service s token w')

end Service
end LoginGate
