import LoginGate.Proofs.Run

/-!
# Proofs/Run/Accounts — accounts along a run

No request deletes an account or changes its names, its password or its identifier, and none brings
two accounts together; all that ever changes is whether an account is blocked. That changes by
nothing but a setting of the flag under one of the account's own names (`Event.Spares`).
-/

namespace LoginGate.Run

variable {service : Service} {σ : State}

theorem step_apart {e : Event} (h : σ.world.store.Apart) :
    (step service σ e).2.world.store.Apart :=
  step_induct (P := fun w => w.store.Apart) e (fun effect => effect.change.apart h) fun _ => h

/-- **Wherever a run leads, accounts are apart.** -/
theorem run_apart (service : Service) (h : σ.world.store.Apart) (events : List Event) :
    (run service σ events).world.store.Apart :=
  run_induct (P := fun τ => τ.world.store.Apart) (fun _ _ => step_apart) h events

theorem start_apart (now : Instant) (threshold : Log.Level) :
    (start now threshold).world.store.Apart := Store.Apart.empty

/-- An account stays through an event as it is, but for its flag. -/
theorem user_stays_step {u : User} (hu : u ∈ σ.world.store.users) (e : Event) :
    ∃ blocked, { u with isBlocked := blocked } ∈ (step service σ e).2.world.store.users :=
  step_induct (P := fun w => ∃ blocked, { u with isBlocked := blocked } ∈ w.store.users) e
    (fun effect => effect.change.user_stays hu) fun _ => ⟨u.isBlocked, hu⟩

/-- **An account stays** wherever a run leads. -/
theorem user_stays {u : User} (hu : u ∈ σ.world.store.users) (events : List Event) :
    ∃ blocked, { u with isBlocked := blocked } ∈ (run service σ events).world.store.users :=
  run_induct (P := fun τ => ∃ blocked, { u with isBlocked := blocked } ∈ τ.world.store.users)
    (fun _ e ⟨_, hu⟩ => user_stays_step hu e) ⟨u.isBlocked, hu⟩ events

/-! ## What takes no time, and what leaves an account as it is -/

/-- A request, be it a half of one: no time passes, and the storage is not meddled with. -/
def Event.IsRequest : Event → Prop
  | .advance _ | .fault _ => False
  | _ => True

/-- **A request that leaves an account as it is**: any but the setting of a flag under a name of the
account. -/
def Event.Spares (u : User) : Event → Prop
  | .block name _ => u.answersTo name = false
  | e => e.IsRequest

theorem Event.Spares.isRequest {u : User} {e : Event} (h : e.Spares u) : e.IsRequest := by
  cases e with
  | advance | fault => exact h
  | _ => trivial

/-- It is the same time as before, and the accounts that there were are there as they were. -/
structure Keeps (w w' : World) : Prop where
  now_eq : w'.now = w.now
  users_subset : w.store.users ⊆ w'.store.users

/-- What a request draws is of no account. -/
theorem Keeps.of_yields {w v w' : World} {store : Store} (h : v.Yields store w')
    (now : v.now = w.now) (users : w.store.users ⊆ store.users) : Keeps w w' :=
  ⟨h.now_eq.trans now, h.store_eq ▸ users⟩

theorem Keeps.of_quiet {w w' : World} (h : w.Quiet w') : Keeps w w' :=
  .of_yields h rfl (List.Subset.refl _)

/-- **A request that sets no flag** leaves the time and the accounts. -/
theorem step_keeps {e : Event} (request : e.IsRequest)
    (unflagged : ∀ login flag, e ≠ .block login flag) :
    Keeps σ.world (step service σ e).2.world := by
  have ends := stepEnd service σ e
  generalize (step service σ e).2.world = w at ends ⊢
  cases ends with
  | register ends =>
    cases ends with
    | refused after =>
      obtain after | after := after
      · exact .of_quiet after
      · exact .of_yields after rfl (List.Subset.refl _)
    | registered _ _ _ _ _ _ _ _ _ _ _ _ after =>
      exact .of_yields after rfl (List.subset_append_left _ _)
  | login ends =>
    cases ends with
    | refused bar after =>
      obtain after | after := after
      · exact .of_quiet after
      · exact .of_yields after rfl (List.Subset.refl _)
    | admitted _ _ _ _ _ _ _ _ _ _ _ after => exact .of_yields after rfl (List.Subset.refl _)
  | lookUp after | verify after => exact .of_quiet after
  | complete underWay ends =>
    cases ends with
    | undated _ after | unswept _ _ _ after => exact .of_quiet after
    | overlong _ _ _ after | unrotated _ _ _ after | lost _ _ _ _ after =>
      exact .of_yields after rfl (List.Subset.refl _)
    | swept _ _ _ after | unissued _ _ _ _ _ _ after | renewed _ _ _ _ _ _ after =>
      exact .of_yields after rfl (List.Subset.refl _)
  | absent => exact .of_quiet (.refl _)
  | logout ends | logoutAll ends =>
    cases ends with
    | failed after => exact .of_quiet after
    | ended after => exact .of_yields after rfl (List.Subset.refl _)
  | block => exact absurd rfl (unflagged _ _)
  | advance | fault => exact request.elim

/-- The setting of a flag takes no time, and leaves an account that does not answer to the name. -/
theorem step_block_spares {login : String} {flag : Flag} :
    (step service σ (.block login flag)).2.world.now = σ.world.now ∧
      (σ.world.store.Apart → ∀ u ∈ σ.world.store.users, u.answersTo login = false →
        u ∈ (step service σ (.block login flag)).2.world.store.users) := by
  have ends := stepEnd service σ (.block login flag)
  generalize (step service σ (.block login flag)).2.world = w at ends ⊢
  cases ends with
  | block ends =>
  cases ends with
  | failed why after => exact ⟨after.now_eq, fun _ u hu _ => after.store_eq ▸ hu⟩
  | unknown nobody after => exact ⟨after.now_eq, fun _ u hu _ => after.store_eq ▸ hu⟩
  | flagged v blocked truth known after =>
    refine ⟨after.now_eq, fun apart u hu silent => ?_⟩
    obtain ⟨hv, answers⟩ := Store.userByLogin?_eq_some known
    have other : u.id ≠ v.id := by
      intro same
      rw [List.inj_on_of_nodup_map apart.ids hu hv same, answers] at silent
      exact nomatch silent
    rw [after.store_eq]
    exact List.mem_map.mpr ⟨u, hu, if_neg other⟩

/-- **A request takes no time.** -/
theorem step_now_eq {e : Event} (request : e.IsRequest) :
    (step service σ e).2.world.now = σ.world.now := by
  cases e with
  | block login flag => exact step_block_spares.1
  | _ => exact (step_keeps request nofun).now_eq

/-- **An account that a request spares is there as it was.** -/
theorem mem_users_step {u : User} (apart : σ.world.store.Apart) (hu : u ∈ σ.world.store.users)
    {e : Event} (spared : e.Spares u) : u ∈ (step service σ e).2.world.store.users := by
  cases e with
  | block login flag => exact step_block_spares.2 apart u hu spared
  | _ => exact (step_keeps spared.isRequest nofun).users_subset hu

/-- **A flag is set** under either name of an account, as long as the storage answers. -/
theorem mem_users_step_block {u : User} (apart : σ.world.store.Apart)
    (hu : u ∈ σ.world.store.users) (calm : σ.world.faultIn = 0) {login : String}
    (answers : u.answersTo login = true) (blocked : Bool) :
    { u with isBlocked := blocked } ∈
      (step service σ (.block login (.known blocked))).2.world.store.users := by
  have known : σ.world.store.userByLogin? login = some u :=
    apart.userByLogin?_eq_some_iff.mpr ⟨hu, answers⟩
  have ends := stepEnd service σ (.block login (.known blocked))
  generalize (step service σ (.block login (.known blocked))).2.world = w at ends ⊢
  cases ends with
  | block ends =>
  cases ends with
  | failed why after =>
    obtain fault | untrue := why
    · omega
    · exact absurd rfl (untrue blocked)
  | unknown nobody after => exact nomatch nobody.symm.trans known
  | flagged v value truth found after =>
    obtain rfl := Option.some.inj (known.symm.trans found)
    obtain rfl := Flag.known.inj truth
    rw [after.store_eq]
    exact List.mem_map.mpr ⟨u, hu, if_pos rfl⟩

/-- Requests take no time, however many there are. -/
theorem run_now_eq {events : List Event} (requests : ∀ e ∈ events, e.IsRequest) :
    (run service σ events).world.now = σ.world.now := by
  induction events generalizing σ with
  | nil => rfl
  | cons e events ih =>
    obtain ⟨request, requests⟩ := List.forall_mem_cons.mp requests
    exact (ih requests).trans (step_now_eq request)

/-- An account that all requests spare is there as it was. -/
theorem mem_users_run {u : User} (apart : σ.world.store.Apart) (hu : u ∈ σ.world.store.users)
    {events : List Event} (spared : ∀ e ∈ events, e.Spares u) :
    u ∈ (run service σ events).world.store.users := by
  induction events generalizing σ with
  | nil => exact hu
  | cons e events ih =>
    obtain ⟨spares, spared⟩ := List.forall_mem_cons.mp spared
    exact ih (step_apart apart) (mem_users_step apart hu spares) spared

end LoginGate.Run
