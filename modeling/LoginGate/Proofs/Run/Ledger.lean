import LoginGate.Proofs.Run

/-!
# Proofs/Run/Ledger — every session that has ever been stored

What a refresh presents may have been read long ago, so what is known of the sessions stored now
does not do. A ledger has every session that has been stored at some time, in each of its states:
as long as no draw repeats, a refresh token belongs to one session in it, and a session to one
owner.
-/

namespace LoginGate.Run

variable {service : Service} {σ : State} {H : Set Session}

/-- **A ledger** of the sessions stored so far. -/
structure Ledger (service : Service) (H : Set Session) (σ : State) : Prop where
  stored : ∀ s ∈ σ.sessions, s ∈ H
  /-- A refresh under way has read one of them, and presents the token that it read. -/
  underWay : ∀ p ∈ σ.pending, p.session ∈ H ∧ p.session.refreshToken = p.token
  ids : ∀ s ∈ H, s.id ∈ service.supply.idsDrawn σ.world
  tokens : ∀ s ∈ H, s.refreshToken ∈ service.supply.tokensDrawn σ.world
  one_session : ∀ a ∈ H, ∀ b ∈ H, a.refreshToken = b.refreshToken → a.id = b.id
  one_owner : ∀ a ∈ H, ∀ b ∈ H, a.id = b.id → a.owner = b.owner

/-- What may be stored next to a ledger: one of its entries, or a session that goes by a token which
is in none of them and either continues an entry or goes by an identifier that is in none. -/
def Traced (H : Set Session) (s : Session) : Prop :=
  s ∈ H ∨ (∀ a ∈ H, a.refreshToken ≠ s.refreshToken) ∧
    ((∃ old ∈ H, s.id = old.id ∧ s.owner = old.owner) ∨ ∀ a ∈ H, a.id ≠ s.id)

/-- Whatever is stored after a request can be traced. -/
theorem Ledger.traced (h : Ledger service H σ) {w : World}
    (effect : Effect service σ.world w) (fresh : service.supply.Unrepeated w) {s : Session}
    (hs : s ∈ w.store.sessions) : Traced H s := by
  cases effect.origin hs with
  | kept mem => exact .inl (h.stored s mem)
  | opened id token ids tokens issued =>
    refine .inr ⟨fun a ha same => ?_, .inr fun a ha same => ?_⟩
    · exact fresh.next_token_notMem (by omega) (token ▸ same ▸ h.tokens a ha)
    · exact fresh.next_id_notMem (by omega) (id ▸ same ▸ h.ids a ha)
  | rotated old mem id owner token tokens =>
    refine .inr ⟨fun a ha same => ?_, .inl ⟨old, h.stored old mem, id, owner⟩⟩
    exact fresh.next_token_notMem (by omega) (token ▸ same ▸ h.tokens a ha)

theorem Ledger.covers (h : Ledger service H σ) : service.supply.Covers σ.world :=
  ⟨fun s hs => h.ids s (h.stored s hs), fun s hs => h.tokens s (h.stored s hs)⟩

/-- What can be traced shares its token with no entry of another session. -/
theorem Ledger.id_eq_of_traced (h : Ledger service H σ) {a b : Session} (ha : a ∈ H)
    (traced : Traced H b) (same : a.refreshToken = b.refreshToken) : a.id = b.id := by
  obtain hb | ⟨new, -⟩ := traced
  · exact h.one_session a ha b hb same
  · exact absurd same (new a ha)

/-- And its identifier with no entry of another owner. -/
theorem Ledger.owner_eq_of_traced (h : Ledger service H σ) {a b : Session} (ha : a ∈ H)
    (traced : Traced H b) (same : a.id = b.id) : a.owner = b.owner := by
  obtain hb | ⟨-, ⟨old, hold, id, owner⟩ | new⟩ := traced
  · exact h.one_owner a ha b hb same
  · exact (h.one_owner a ha old hold (same.trans id)).trans owner.symm
  · exact absurd same (new a ha)

/-- **An event adds to the ledger** what is stored after it. -/
theorem Ledger.step (h : Ledger service H σ) {e : Event}
    (keyed : (step service σ e).2.world.store.Keyed)
    (fresh : service.supply.Unrepeated (step service σ e).2.world) :
    Ledger service (H ∪ {s | s ∈ (Run.step service σ e).2.sessions}) (Run.step service σ e).2 := by
  obtain ⟨-, moreIds, moreTokens⟩ := step_le service σ e
  have covered := step_covers (e := e) h.covers
  have traced : ∀ s ∈ (Run.step service σ e).2.sessions, Traced H s :=
    step_induct (P := fun w => service.supply.Unrepeated w → ∀ s ∈ w.store.sessions, Traced H s) e
      (fun effect fresh s hs => h.traced effect fresh hs) (fun _ _ s hs => .inl (h.stored s hs))
      fresh
  constructor
  · exact fun s hs => .inr hs
  · intro p hp
    obtain hp | ⟨read, same⟩ := mem_pending_step hp
    · exact ⟨.inl (h.underWay p hp).1, (h.underWay p hp).2⟩
    · exact ⟨.inl (h.stored _ read), same⟩
  · rintro s (hs | hs)
    · exact Supply.idsDrawn_mono moreIds (h.ids s hs)
    · exact covered.ids s hs
  · rintro s (hs | hs)
    · exact Supply.tokensDrawn_mono moreTokens (h.tokens s hs)
    · exact covered.tokens s hs
  -- two old entries, an old one and one stored now, and two stored now, which are apart anyway
  · rintro a (ha | ha) b (hb | hb) same
    · exact h.one_session a ha b hb same
    · exact h.id_eq_of_traced ha (traced b hb) same
    · exact (h.id_eq_of_traced hb (traced a ha) same.symm).symm
    · exact congrArg Session.id (keyed.eq_of_token ha hb same)
  · rintro a (ha | ha) b (hb | hb) same
    · exact h.one_owner a ha b hb same
    · exact h.owner_eq_of_traced ha (traced b hb) same
    · exact (h.owner_eq_of_traced hb (traced a ha) same.symm).symm
    · exact congrArg Session.owner (keyed.eq_of_id ha hb same)

/-! ## The ledger of a run -/

/-- The sessions that have been stored at some time of a run. -/
def ever (service : Service) (σ : State) (events : List Event) : Set Session :=
  {s | ∃ past, past <+: events ∧ s ∈ (run service σ past).sessions}

theorem mem_ever_of_stored {events : List Event} {s : Session}
    (hs : s ∈ (run service σ events).sessions) : s ∈ ever service σ events :=
  ⟨events, List.prefix_rfl, hs⟩

theorem ever_concat (events : List Event) (e : Event) :
    ever service σ (events ++ [e]) =
      ever service σ events ∪ {s | s ∈ (step service (run service σ events) e).2.sessions} := by
  ext s
  constructor
  · rintro ⟨past, hp, hs⟩
    obtain rfl | hp := List.prefix_concat_iff.mp hp
    · rw [run_concat] at hs
      exact .inr hs
    · exact .inl ⟨past, hp, hs⟩
  · rintro (⟨past, hp, hs⟩ | hs)
    · exact ⟨past, hp.trans (List.prefix_append ..), hs⟩
    · rw [← run_concat] at hs
      exact mem_ever_of_stored hs

/-- **Every run from a fresh service has its ledger.** -/
theorem ledger_of_run {now : Instant} {threshold : Log.Level} {events : List Event}
    (fresh : service.supply.Unrepeated (run service (start now threshold) events).world) :
    Ledger service (ever service (start now threshold) events)
      (run service (start now threshold) events) := by
  induction events using List.reverseRecOn with
  | nil =>
    have nothing : ∀ s, s ∉ ever service (start now threshold) [] := by
      rintro s ⟨past, hp, hs⟩
      obtain rfl := List.prefix_nil.mp hp
      exact List.not_mem_nil hs
    constructor
    · exact fun s hs => absurd hs List.not_mem_nil
    · exact fun p hp => absurd hp List.not_mem_nil
    · exact fun s hs => absurd hs (nothing s)
    · exact fun s hs => absurd hs (nothing s)
    · exact fun a ha => absurd ha (nothing a)
    · exact fun a ha => absurd ha (nothing a)
  | append_singleton events e ih =>
    rw [run_concat] at fresh ⊢
    rw [ever_concat]
    have before : service.supply.Unrepeated (run service (start now threshold) events).world :=
      unrepeated_of_run [e] fresh
    exact (ih before).step (step_keyed (run_keyed service (start_keyed now threshold) events)) fresh

/-! ## Tokens handed out -/

/-- **The refresh tokens handed out for a session** in a run: by the login that opened it, and by
every refresh that presented one of them. -/
inductive Issued (service : Service) (σ : State) (id : Uuid) : List Event → String → Prop where
  | login {past : List Event} {e : Event} {a : Admission} (session : a.session = id)
    (answer : (step service (run service σ past) e).1 = .ok (.admitted a)) :
    Issued service σ id (past ++ [e]) a.refreshToken
  | refresh {past : List Event} {e : Event} {t : String} {pair : TokenPair}
    (presented : Issued service σ id past t)
    (answer : (step service (run service σ past) e).1 = .ok (.renewed t pair)) :
    Issued service σ id (past ++ [e]) pair.refreshToken
  | later {past : List Event} {t : String} (e : Event) (earlier : Issued service σ id past t) :
    Issued service σ id (past ++ [e]) t

/-- **What has been handed out for a session is in the ledger** under its identifier. -/
theorem ever_of_issued {now : Instant} {threshold : Log.Level} {id : Uuid} {events : List Event}
    {t : String} (h : Issued service (start now threshold) id events t)
    (fresh : service.supply.Unrepeated (run service (start now threshold) events).world) :
    ∃ s ∈ ever service (start now threshold) events, s.id = id ∧ s.refreshToken = t := by
  induction h with
  | login session answer =>
    obtain ⟨s, hs, hid, -, token⟩ := stored_of_admitted answer
    rw [← run_concat] at hs
    exact ⟨s, mem_ever_of_stored hs, hid.trans session, token⟩
  | @refresh past e t pair presented answer ih =>
    rw [run_concat] at fresh
    have before := unrepeated_of_run [e] fresh
    have ledger := ledger_of_run before
    obtain ⟨r, hr, rfl, token⟩ := ih before
    obtain ⟨s, hs, stored, old, hold, presented, same, -⟩ := stored_of_renewed answer
    have one := ledger.one_session old (ledger.stored old hold) r hr (presented.trans token.symm)
    rw [← run_concat] at hs
    exact ⟨s, mem_ever_of_stored hs, same.trans one, stored⟩
  | @later past t e earlier ih =>
    rw [run_concat] at fresh
    obtain ⟨s, hs, hid, token⟩ := ih (unrepeated_of_run [e] fresh)
    rw [ever_concat]
    exact ⟨s, .inl hs, hid, token⟩

end LoginGate.Run
