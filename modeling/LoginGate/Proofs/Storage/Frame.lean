import LoginGate.Proofs.Storage.Logins

/-!
# Proofs/Storage/Frame — a storage call does what it is asked to, or nothing

A call that fails leaves both tables as they were, wherever it fails: before its transaction, by a
roll-back, or after a commit that has found no row to change. A call that returns has changed the
rows that it names and no others (`Write.Did`). That these are one row, where one is named, rests on
the columns that are unique in all tables that calls have led to.
-/

namespace LoginGate.Store

/-! ## Calls that look something up -/

/-- **A storage call that looks something up**, with its arguments. -/
inductive Lookup where
  | userByLogin (login : Argument)
  | userIsBlocked (id : Uuid)
  | sessionByToken (token : String)

/-- The world after a look-up, whether it has found something or failed. -/
def Lookup.after (w : World) : Lookup → World
  | .userByLogin login => (accountOf login w).2
  | .userIsBlocked id => (Store.userIsBlocked id w).2
  | .sessionByToken token => (getSession token w).2

/-- **A look-up changes nothing.** -/
theorem Lookup.store_after (lookup : Lookup) (w : World) : (lookup.after w).store = w.store := by
  have quiet {w' : World} (h : w.Quiet w') : w'.store = w.store := h.store_eq
  cases lookup with
  | userByLogin login =>
    exact accountOf_induct (P := fun p => p.2.store = w.store) (fun _ _ => quiet)
      (fun _ _ _ => quiet) fun _ _ _ _ h _ => quiet h
  | userIsBlocked id =>
    exact userIsBlocked_induct (P := fun p => p.2.store = w.store) (fun _ _ => quiet)
      (fun _ _ _ => quiet) fun _ _ _ _ h _ => quiet h
  | sessionByToken token =>
    exact getSession_induct (P := fun p => p.2.store = w.store) (fun _ _ => quiet)
      (fun _ _ _ => quiet) fun _ _ _ _ h _ => quiet h

/-! ## What a call has done once it returns -/

namespace Write

/-- What a call answers, apart from the identifier that confirms a new account. -/
def answer (w : World) : Write → Except Failure Unit
  | .createUser id email username passwordHash =>
    (enrol id email username passwordHash w).1.map fun _ => ()
  | .setBlocked id flag => (flagUser id flag w).1
  | .storeSession owner session => (Store.storeSession owner session w).1
  | .refreshSession renewed previous => (Store.refreshSession renewed previous w).1
  | .deleteSession owner id => (removeSession owner id w).1
  | .deleteAllSessions owner => (removeSessions owner w).1

/-- **What a call that returns has done** to the tables. -/
inductive Did (store : Store) (now : Instant) : Write → Store → Prop where
  /-- The account is added that was given, not blocked. -/
  | created (id : Uuid) (email username passwordHash : String) :
    Did store now (.createUser id (.text email) (.text username) (.text passwordHash))
      { store with users := store.users ++ [⟨id, email, username, passwordHash, now, false⟩] }
  /-- The flag is set of the one account with that identifier. -/
  | flagged {before after : List User} {u : User} (blocked : Bool)
    (split : store.users = before ++ u :: after) (others : ∀ v ∈ before ++ after, v.id ≠ u.id) :
    Did store now (.setBlocked u.id (.known blocked))
      { store with users := before ++ { u with isBlocked := blocked } :: after }
  /-- The session is added that was given, under the owner that was given. -/
  | stored (owner : Uuid) (session : Session) :
    Did store now (.storeSession owner session)
      { store with sessions := store.sessions ++ [{ session with owner }] }
  /-- The refresh token and the dates are set of the one session with that identifier, which has
  that owner and the refresh token that was presented. -/
  | rotated {before after : List Session} {s renewed : Session}
    (split : store.sessions = before ++ s :: after)
    (others : ∀ t ∈ before ++ after, t.id ≠ s.id) (id : s.id = renewed.id)
    (owner : s.owner = renewed.owner) :
    Did store now (.refreshSession renewed s.refreshToken)
      { store with sessions := before ++
          { s with
            refreshToken := renewed.refreshToken
            created := renewed.created
            expires := renewed.expires } :: after }
  /-- The sessions are gone that have both identifiers. -/
  | deleted (owner id : Uuid) :
    Did store now (.deleteSession owner id)
      { store with sessions := store.sessions.filter fun s => ¬ (s.id = id ∧ s.owner = owner) }
  /-- The sessions of the owner are gone. -/
  | deletedAll (owner : Uuid) :
    Did store now (.deleteAllSessions owner)
      { store with sessions := store.sessions.filter fun s => s.owner ≠ owner }

/-- **How a call that writes can end**, as far as the tables go. -/
inductive End (w : World) (write : Write) : Except Failure Unit → Store → Prop where
  | failed {e : Failure} : End w write (.error e) w.store
  | done {store : Store} (did : write.Did w.store w.now store) : End w write (.ok ()) store

variable {w w' : World} {write : Write}

theorem End.of_quiet {e : Failure} (h : w.Quiet w') : write.End w (.error e) w'.store := by
  rw [h.store_eq]
  exact .failed

theorem End.of_yields {store : Store} (h : w.Yields store w')
    (did : write.Did w.store w.now store) : write.End w (.ok ()) w'.store := by
  rw [h.store_eq]
  exact .done did

/-- A rotation that the storage lets through is one of a single session. -/
theorem did_rotate (keyed : w.store.Keyed) {renewed : Session} {previous : String}
    (there : w.store.canRotate renewed previous = true) :
    Did w.store w.now (.refreshSession renewed previous) (w.store.rotate renewed previous) := by
  obtain ⟨s, mem, id, owner, rfl⟩ := canRotate_iff.mp there
  obtain ⟨before, after, split⟩ := List.append_of_mem mem
  rw [keyed.rotate_split split (isRotatable_iff.mpr ⟨id, owner, rfl⟩)]
  exact .rotated split (keyed.id_ne_of_split split) id owner

/-- The flag of an account that is there is set on a single account. -/
theorem did_setBlocked (apart : w.store.Apart) {id : Uuid} {u : User}
    (found : w.store.user? id = some u) (blocked : Bool) :
    Did w.store w.now (.setBlocked id (.known blocked)) (w.store.setBlocked id blocked) := by
  obtain ⟨mem, rfl⟩ := user?_eq_some found
  obtain ⟨before, after, split⟩ := List.append_of_mem mem
  rw [apart.setBlocked_split split]
  exact .flagged blocked split (apart.id_ne_of_split split)

theorem did_deleteSession (owner id : Uuid) :
    Did w.store w.now (.deleteSession owner id) (w.store.deleteSession owner id) := by
  have same : w.store.deleteSession owner id = { w.store with
      sessions := w.store.sessions.filter fun s => ¬ (s.id = id ∧ s.owner = owner) } := by
    unfold Store.deleteSession
    congr 1
    refine List.filter_congr fun s _ => ?_
    rw [Bool.eq_iff_iff]
    simp
  rw [same]
  exact .deleted owner id

theorem did_deleteSessions (owner : Uuid) :
    Did w.store w.now (.deleteAllSessions owner) (w.store.deleteSessions owner) := by
  have same : w.store.deleteSessions owner = { w.store with
      sessions := w.store.sessions.filter fun s => s.owner ≠ owner } := by
    unfold Store.deleteSessions
    congr 1
    refine List.filter_congr fun s _ => ?_
    rw [Bool.eq_iff_iff]
    simp
  rw [same]
  exact .deletedAll owner

/-- **A call that writes has changed what it names, or it has failed and changed nothing.** -/
theorem ends (write : Write) (keyed : w.store.Keyed) (apart : w.store.Apart) :
    write.End w (write.answer w) (write.after w).store := by
  cases write with
  | createUser id email username passwordHash =>
    refine enrol_induct (P := fun p => End w _ (p.1.map fun _ => ()) p.2.store)
      (fun _ _ => .of_quiet) ?_
    rintro u w' ⟨rfl, rfl, rfl⟩ row - - h
    refine .of_yields h ?_
    rw [row]
    exact .created ..
  | setBlocked id flag =>
    cases flag with
    | known blocked =>
      refine blockUser_induct (P := fun p => End w _ p.1 p.2.store) (fun _ _ => .of_quiet) ?_ ?_
      · intro w' missing h
        rw [setBlocked_of_missing missing] at h
        exact .of_quiet h
      · exact fun u w' found h => .of_yields h (did_setBlocked apart found blocked)
    | nothing =>
      exact flagUser_induct id .nothing nofun (P := fun p => End w _ p.1 p.2.store)
        fun _ _ => .of_quiet
    | unfit =>
      exact flagUser_induct id .unfit nofun (P := fun p => End w _ p.1 p.2.store)
        fun _ _ => .of_quiet
  | storeSession owner session =>
    exact storeSession_induct (P := fun p => End w _ p.1 p.2.store) (fun _ _ => .of_quiet)
      (fun _ _ => .of_quiet) fun _ _ h => .of_yields h (.stored owner session)
  | refreshSession renewed previous =>
    exact refreshSession_induct (P := fun p => End w _ p.1 p.2.store) (fun _ _ => .of_quiet)
      (fun _ _ _ => .of_quiet) (fun _ _ _ _ => .of_quiet)
      fun _ _ there _ h => .of_yields h (did_rotate keyed there)
  | deleteSession owner id =>
    exact removeSession_induct (P := fun p => End w _ p.1 p.2.store) (fun _ _ => .of_quiet)
      fun _ _ h => .of_yields h (did_deleteSession owner id)
  | deleteAllSessions owner =>
    exact removeSessions_induct (P := fun p => End w _ p.1 p.2.store) (fun _ _ => .of_quiet)
      fun _ _ h => .of_yields h (did_deleteSessions owner)

end Write

/-! ## Calls are atomic -/

/-- **Storage calls are atomic**, and change what they name. -/
structure Atomic (w : World) : Prop where
  /-- A call that fails has changed nothing. -/
  failed : ∀ (write : Write) e, write.answer w = .error e → (write.after w).store = w.store
  /-- A call that returns has changed what it names. -/
  returned : ∀ write : Write, write.answer w = .ok () →
    write.Did w.store w.now (write.after w).store
  lookedUp : ∀ lookup : Lookup, (lookup.after w).store = w.store
  /-- A rotation of a session that is there to a token that another session holds is refused as
  such, and not as a race that is lost. -/
  clashed : ∀ renewed previous,
    (∃ s ∈ w.store.sessions, s.id = renewed.id ∧ s.owner = renewed.owner ∧
      s.refreshToken = previous) →
    (∃ t ∈ w.store.sessions, t.id ≠ renewed.id ∧ t.refreshToken = renewed.refreshToken) →
    (Write.refreshSession renewed previous).answer w =
        .error (.app (.repository (some Call.refreshSession.name))) ∧
      ((Write.refreshSession renewed previous).after w).store = w.store

/-- **Whatever has been written, every call is atomic.** -/
theorem atomic_of_written {w : World} (written : Written w.store) : Atomic w := by
  obtain ⟨keyed, apart⟩ := written.kept_apart
  constructor
  · intro write e failed
    have ends := write.ends keyed apart
    rw [failed] at ends
    generalize (write.after w).store = after at ends ⊢
    cases ends with
    | failed => rfl
  · intro write returned
    have ends := write.ends keyed apart
    rw [returned] at ends
    cases ends with
    | done did => exact did
  · exact fun lookup => lookup.store_after w
  · intro renewed previous there held
    have there := canRotate_iff.mpr there
    obtain ⟨t, mem, other, same⟩ := held
    have held : w.store.isTokenHeld renewed previous = true := by
      by_contra free
      refine isTokenHeld_eq_false_iff.mp (Bool.eq_false_iff.mpr free) t mem ?_ same
      exact Bool.eq_false_iff.mpr fun rotatable => other (isRotatable_iff.mp rotatable).1
    refine refreshSession_induct (P := fun p => p.1 = .error Call.refreshSession.unanswered ∧
      p.2.store = w.store) ?_ ?_ ?_ ?_
    · exact fun w' _ h => ⟨rfl, h.store_eq⟩
    · exact fun w' _ gone _ => nomatch gone.symm.trans there
    · exact fun w' _ _ _ h => ⟨rfl, h.store_eq⟩
    · exact fun w' _ _ free _ => nomatch free.symm.trans held

/-- A session of one owner, and one of another. -/
def sharing : List Write :=
  [.storeSession (Uuid.ofNat 1) ⟨Uuid.ofNat 3, Uuid.ofNat 1, "r", 0, 1, "", none⟩,
    .storeSession (Uuid.ofNat 2) ⟨Uuid.ofNat 4, Uuid.ofNat 1, "s", 0, 1, "", none⟩]

/-- The world that these calls lead to. -/
def shared : World := sharing.foldl Write.after (Service.freshWorld 0 .info)

set_option maxRecDepth 100000 in
/-- The session of the first owner is not rotated to the refresh token of the second. -/
theorem shared_atomic : Written shared.store ∧ Atomic shared ∧
    (Write.refreshSession ⟨Uuid.ofNat 3, Uuid.ofNat 1, "s", 2, 3, "", none⟩ "r").answer shared =
      .error (.app (.repository (some "refresh_session"))) := by
  have written : Written shared.store :=
    Written.empty.calls (w := Service.freshWorld 0 .info) sharing
  have atomic := atomic_of_written written
  exact ⟨written, atomic, (atomic.clashed _ _ (by decide +kernel) (by decide +kernel)).1⟩

end LoginGate.Store
