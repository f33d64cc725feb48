import LoginGate.Proofs.Run

/-!
# Proofs/Refresh/SingleUse — a refresh token is good for one pair

However refreshes overlap, with each other and with other requests, a refresh token gets its holder
one pair of tokens at most. A rotation takes the token presented out of the store; what is no longer
stored is spent, and no later draw brings it back.
-/

namespace LoginGate

namespace Service

variable {service : Service} {w : World} {session : Session} {token : String}

/-- A pair is handed out only for a token that is stored. -/
theorem mem_refreshTokens_of_complete {pair : TokenPair}
    (h : (service.complete session token w).1 = .ok pair) : token ∈ w.store.refreshTokens := by
  have done := completion service session token w
  generalize service.complete session token w = p at h done
  cases done with
  | renewed live within answers there free issue after =>
    obtain ⟨t, ht, -, -, hp⟩ := Store.canRotate_iff.mp there
    exact Store.mem_refreshTokens.mpr ⟨t, ht, hp⟩
  | undated | unswept | swept | overlong | unrotated | lost | unissued => exact nomatch h

/-- **A rotation spends the token presented.** -/
theorem spent_of_rotate {expires : Instant} {w' : World}
    (there : w.store.canRotate session token = true)
    (after : w.withToken.Yields (w.store.rotate (service.renewal session w expires) token) w')
    (keyed : w.store.Keyed) (covers : service.supply.Covers w)
    (fresh : service.supply.Unrepeated w') : service.supply.Spent token w' := by
  obtain ⟨old, hold, rotated⟩ := List.any_eq_true.mp there
  obtain ⟨-, -, rfl⟩ := Store.isRotatable_iff.mp rotated
  have drawn := covers.tokens old hold
  have tokens : w'.tokens = w.tokens + 1 := after.tokens_eq
  refine ⟨Supply.tokensDrawn_mono (by omega) drawn, fun mem => ?_⟩
  rw [after.store_eq] at mem
  obtain ⟨s, hs, same⟩ := Store.mem_refreshTokens.mp mem
  obtain ⟨hs, unrotated⟩ | ⟨r, -, -, rfl⟩ := Store.mem_rotate hs
  · -- a session that is left as it was is not the one of the token presented
    obtain rfl : s = old := keyed.eq_of_token hs hold same
    have unrotated : Store.isRotatable session s.refreshToken s = false := unrotated
    exact nomatch unrotated.symm.trans rotated
  · have same : service.supply.token (w.tokens + 1) = old.refreshToken := same
    exact fresh.next_token_notMem (by omega) (same ▸ drawn)

/-- A pair is handed out for a token that is spent thereby. -/
theorem spent_of_complete {pair : TokenPair} {w' : World}
    (h : service.complete session token w = (.ok pair, w')) (keyed : w.store.Keyed)
    (covers : service.supply.Covers w) (fresh : service.supply.Unrepeated w') :
    service.supply.Spent token w' := by
  have done := completion service session token w
  rw [h] at done
  cases done with
  | renewed live within answers there free issue after =>
    exact spent_of_rotate there after keyed covers fresh

end Service

namespace Run

variable {service : Service} {σ : State}

/-- Whether an answer hands out a pair to a refresh that presented this token. -/
def renews (t : String) : Except Failure Answer → Bool
  | .ok (.renewed presented _) => presented == t
  | _ => false

theorem eq_of_renews {t : String} {a : Except Failure Answer} (h : renews t a = true) :
    ∃ pair, a = .ok (.renewed t pair) := by
  unfold renews at h
  split at h
  · next presented pair =>
    obtain rfl : presented = t := by simpa using h
    exact ⟨pair, rfl⟩
  · exact nomatch h

/-- A refresh whose second half comes when its token is not stored gets no pair. -/
theorem not_renews_of_notMem (service : Service) {t : String} (h : t ∉ σ.tokens) (e : Event) :
    renews t (step service σ e).1 = false := by
  refine Bool.eq_false_iff.mpr fun hr => ?_
  obtain ⟨pair, hr⟩ := eq_of_renews hr
  obtain ⟨index, p, -, -, rfl, hp⟩ := eq_complete_of_renewed hr
  exact h (Service.mem_refreshTokens_of_complete hp)

/-- A pair handed out leaves its token spent. -/
theorem spent_of_renews {t : String} {e : Event} (h : renews t (step service σ e).1 = true)
    (keyed : σ.world.store.Keyed) (covers : service.supply.Covers σ.world)
    (fresh : service.supply.Unrepeated (step service σ e).2.world) :
    service.supply.Spent t (step service σ e).2.world := by
  obtain ⟨pair, hr⟩ := eq_of_renews h
  obtain ⟨index, p, rfl, hi, rfl, hp⟩ := eq_complete_of_renewed hr
  rw [step_complete hi] at fresh ⊢
  exact Service.spent_of_complete (Prod.ext hp rfl) keyed covers fresh

/-- A spent token is never again good for a pair. -/
theorem countP_renews_of_spent {t : String} {events : List Event}
    (fresh : service.supply.Unrepeated (run service σ events).world)
    (h : service.supply.Spent t σ.world) :
    (answers service σ events).countP (renews t) = 0 := by
  induction events generalizing σ with
  | nil => rfl
  | cons e events ih =>
    have rest := ih fresh (step_spent (unrepeated_of_run events fresh) h)
    rw [answers, List.countP_cons_of_neg (by simp [not_renews_of_notMem service h.gone e]), rest]

/-- **At most one refresh that presents a token gets a pair.** -/
theorem countP_renews_le_one {events : List Event}
    (fresh : service.supply.Unrepeated (run service σ events).world)
    (keyed : σ.world.store.Keyed) (covers : service.supply.Covers σ.world) (t : String) :
    (answers service σ events).countP (renews t) ≤ 1 := by
  induction events generalizing σ with
  | nil => exact Nat.zero_le _
  | cons e events ih =>
    have here : service.supply.Unrepeated (step service σ e).2.world :=
      unrepeated_of_run events fresh
    by_cases hr : renews t (step service σ e).1 = true
    · have rest := countP_renews_of_spent (σ := (step service σ e).2) fresh
        (spent_of_renews hr keyed covers here)
      rw [answers, List.countP_cons_of_pos hr, rest]
    · rw [answers, List.countP_cons_of_neg hr]
      exact ih fresh (step_keyed keyed) (step_covers covers)

/-- **What it is for a refresh token to be single use** in a run. -/
structure SingleUse (service : Service) (σ : State) (events : List Event) (t : String) : Prop where
  /-- At any time one session holds the token at most. -/
  one_holder : ∀ past, past <+: events → (run service σ past).tokens.count t ≤ 1
  /-- Once it has been stored and is no longer, it is not stored again. -/
  no_return : ∀ early late, early <+: late → late <+: events →
    t ∈ (run service σ early).tokens → t ∉ (run service σ late).tokens →
      t ∉ (run service σ events).tokens
  /-- One of the refreshes that present it gets a pair at most. -/
  one_pair : (answers service σ events).countP (renews t) ≤ 1
  /-- A refresh whose second half comes when it is not stored fails. -/
  refused : ∀ past, past <+: events → t ∉ (run service σ past).tokens →
    ∀ index p, (run service σ past).pending[index]? = some p → p.token = t →
      ∃ e, (step service (run service σ past) (.complete index)).1 = .error e

/-- **Refresh tokens are single use**, in whatever order the halves of refreshes and other requests
come, as long as no draw repeats. -/
theorem refreshToken_singleUse (service : Service) (now : Instant) (threshold : Log.Level)
    (events : List Event)
    (fresh : service.supply.Unrepeated (run service (start now threshold) events).world)
    (t : String) : SingleUse service (start now threshold) events t where
  one_holder past _ := by
    have keyed := run_keyed service (start_keyed now threshold) past
    exact List.nodup_iff_count_le_one.mp keyed.tokens t
  no_return := by
    rintro early late ⟨between, rfl⟩ ⟨rest, rfl⟩ stored gone
    rw [run_append] at fresh ⊢
    have covers := run_covers (start_covers service now threshold) early
    obtain ⟨s, hs, rfl⟩ := Store.mem_refreshTokens.mp stored
    have drawn : s.refreshToken ∈ service.supply.tokensDrawn
        (run service (start now threshold) (early ++ between)).world := by
      rw [run_append]
      exact Supply.tokensDrawn_mono (run_le _ _ between).2.2 (covers.tokens s hs)
    exact (run_spent fresh ⟨drawn, gone⟩).gone
  one_pair :=
    countP_renews_le_one fresh (start_keyed now threshold) (start_covers service now threshold) t
  refused past _ gone index p hp hpt := by
    have unrenewed := not_renews_of_notMem service gone (.complete index)
    rw [step_complete hp, hpt] at unrenewed ⊢
    generalize service.complete p.session t (run service (start now threshold) past).world = q
      at unrenewed ⊢
    rcases q with ⟨e | pair, w⟩
    · exact ⟨e, rfl⟩
    · simp [State.after, renews, Except.map] at unrenewed

/-- Two refreshes that overlap. -/
def overlapping : List Event := opening ++ [.lookUp "r", .lookUp "r", .complete 0, .complete 0]

set_option maxRecDepth 100000 in
theorem overlapping_renews :
    (run (sample 900) (start 0 .info) overlapping).world.ids < 1 <<< 128 ∧
      (answers (sample 900) (start 0 .info) overlapping).countP (renews "r") = 1 := by
  decide +kernel

/-- Of two refreshes that overlap one gets a pair. -/
theorem overlapping_singleUse :
    (sample 900).supply.Unrepeated
        (run (sample 900) (start 0 .info) overlapping).world ∧
      (answers (sample 900) (start 0 .info) overlapping).countP (renews "r") = 1 ∧
      SingleUse (sample 900) (start 0 .info) overlapping "r" := by
  obtain ⟨few, one⟩ := overlapping_renews
  have fresh := sample_unrepeated 900 few
  exact ⟨fresh, one, refreshToken_singleUse _ _ _ _ fresh "r"⟩

end Run
end LoginGate
