import LoginGate.Proofs.Act
import LoginGate.Service.Argument

/-!
# Proofs/Storage — how a storage call can end

One rule for each call: to show something of what it returns and leaves behind, show it for each way
in which the call can end. A call that is rolled back is quiet, whatever the reason, and one that
commits puts the tables in place that its body has made out of the ones before (`transact_induct`).
-/

namespace LoginGate

/-- What the caller of the storage gets to see if it does not answer, or refuses a row. -/
def Call.unanswered (call : Call) : Failure := .app (.repository (some call.name))

namespace Abort

theorem quiet_noteBefore (w : World) (abort : Abort) : w.Quiet (abort.noteBefore w) := by
  cases abort <;> exact ⟨rfl, rfl, rfl, rfl, Nat.le_refl _⟩

theorem quiet_noteAfter (call : Call) (w : World) (abort : Abort) :
    w.Quiet (abort.noteAfter call w) := by
  cases abort <;> exact ⟨rfl, rfl, rfl, rfl, Nat.le_refl _⟩

/-- **A roll-back is quiet.** -/
theorem quiet_rollBack (call : Call) (w : World) (abort : Abort) :
    w.Quiet (abort.rollBack call w) :=
  ((quiet_noteBefore w abort).quiet (World.quiet_log _ _ _)).quiet (quiet_noteAfter call _ abort)

end Abort

namespace Store

variable {α β : Type} {w : World}

/-- The world in which the body of a transaction begins. -/
theorem quiet_begun (w : World) :
    w.Quiet (w.log .debug "db.session: opened session").countdown :=
  (w.quiet_log _ _).quiet (World.quiet_countdown _)

/-- **A transaction** does not get to its body, or is rolled back by it, or commits. -/
theorem transact_induct {call : Call} {body : World → Except Abort (α × Store)}
    {P : Except Failure α × World → Prop}
    (fault : ∀ w', w.faultIn = 1 → w.Quiet w' → P (.error call.unanswered, w'))
    (aborted : ∀ v abort w', w.faultIn ≠ 1 → w.Quiet v → body v = .error abort → w.Quiet w' →
      P (.error (abort.failure call), w'))
    (committed : ∀ v a store w', w.faultIn ≠ 1 → w.Quiet v → body v = .ok (a, store) →
      w.Yields store w' → w'.faultIn = w.faultIn - 1 → P (.ok a, w')) :
    P (transact call body w) := by
  have begun := quiet_begun w
  by_cases hf : w.faultIn = 1
  · simp only [transact, hf, if_true]
    exact fault _ hf (begun.quiet (Abort.quiet_rollBack ..))
  · simp only [transact, hf, if_false]
    cases hb : body (w.log .debug "db.session: opened session").countdown with
    | error abort => exact aborted _ abort _ hf begun hb (begun.quiet (Abort.quiet_rollBack ..))
    | ok p =>
      exact committed _ p.1 p.2 _ hf begun hb
        ⟨rfl, begun.now_eq, begun.ids_eq, begun.tokens_eq, begun.faultIn_le⟩ rfl

/-- A look-up is quiet and finds what is in the tables, if the storage answers. -/
theorem query_induct {call : Call} {read : Store → α} {P : Except Failure α × World → Prop}
    (fault : ∀ w', w.faultIn = 1 → w.Quiet w' → P (.error call.unanswered, w'))
    (found : ∀ w', w.faultIn ≠ 1 → w.Quiet w' → w'.faultIn = w.faultIn - 1 →
      P (.ok (read w.store), w')) :
    P (query call read w) := by
  refine transact_induct fault ?_ ?_
  · intro v abort w' _ _ hb
    exact nomatch hb
  · intro v a store w' hf hv hb hw hw'
    obtain ⟨rfl, rfl⟩ := Prod.mk.inj (Except.ok.inj hb)
    rw [hv.store_eq] at hw ⊢
    exact found w' hf hw hw'

/-- **A row is looked up**: the storage answers or does not, and the row is there or is not. -/
theorem query_bind_induct {call : Call} {read : Store → Option α} {next : Option α → Act β}
    {P : Except Failure β × World → Prop}
    (fault : ∀ w', w.faultIn = 1 → w.Quiet w' → P (.error call.unanswered, w'))
    (missing : ∀ w', w.faultIn ≠ 1 → read w.store = none → w.Quiet w' → P (next none w'))
    (found : ∀ a w', w.faultIn ≠ 1 → read w.store = some a → w.Quiet w' →
      w'.faultIn = w.faultIn - 1 → P (next (some a) w')) :
    P ((query call read >>= next) w) := by
  rw [Act.bind_eq_resume]
  refine query_induct (P := fun p => P (Act.resume _ p)) fault fun w' hf hw hw' => ?_
  cases row : read w.store with
  | none => exact missing w' hf row hw
  | some a => exact found a w' hf row hw hw'

theorem getUserByLogin_induct {login : String} {P : Except Failure (Uuid × String) × World → Prop}
    (fault : ∀ w', w.faultIn = 1 → w.Quiet w' → P (.error Call.getUserByLogin.unanswered, w'))
    (unknown : ∀ w', w.faultIn ≠ 1 → w.store.userByLogin? login = none → w.Quiet w' →
      P (.error (.app (.notFound "user")), w'))
    (known : ∀ u w', w.faultIn ≠ 1 → w.store.userByLogin? login = some u → w.Quiet w' →
      w'.faultIn = w.faultIn - 1 → P (.ok (u.id, u.passwordHash), w')) :
    P (getUserByLogin login w) := query_bind_induct fault unknown known

/-- What the look-up of a name answers. -/
theorem getUserByLogin_fst (login : String) (w : World) :
    (getUserByLogin login w).1 =
      if w.faultIn = 1 then .error Call.getUserByLogin.unanswered
      else match w.store.userByLogin? login with
        | some u => .ok (u.id, u.passwordHash)
        | none => .error (.app (.notFound "user")) := by
  refine getUserByLogin_induct (P := fun p => p.1 = _) ?_ ?_ ?_
  · intro w' hf _
    rw [if_pos hf]
  · intro w' hf unknown _
    rw [if_neg hf, unknown]
  · intro u w' hf known _ _
    rw [if_neg hf, known]

/-- An account is looked up by one of its names. -/
theorem accountOf_induct {login : Argument} {P : Except Failure (Uuid × String) × World → Prop}
    (fault : ∀ w', w.faultIn = 1 → w.Quiet w' → P (.error Call.getUserByLogin.unanswered, w'))
    (unknown : ∀ w', w.faultIn ≠ 1 → login.text?.bind w.store.userByLogin? = none → w.Quiet w' →
      P (.error (.app (.notFound "user")), w'))
    (known : ∀ u w', w.faultIn ≠ 1 → login.text?.bind w.store.userByLogin? = some u → w.Quiet w' →
      w'.faultIn = w.faultIn - 1 → P (.ok (u.id, u.passwordHash), w')) :
    P (accountOf login w) := query_bind_induct fault unknown known

/-- The flag of an account is looked up by its identifier. -/
theorem userIsBlocked_induct {id : Uuid} {P : Except Failure Bool × World → Prop}
    (fault : ∀ w', w.faultIn = 1 → w.Quiet w' → P (.error Call.userIsBlocked.unanswered, w'))
    (missing : ∀ w', w.faultIn ≠ 1 → w.store.user? id = none → w.Quiet w' →
      P (.error (.app (.notFound "user")), w'))
    (found : ∀ u w', w.faultIn ≠ 1 → w.store.user? id = some u → w.Quiet w' →
      w'.faultIn = w.faultIn - 1 → P (.ok u.isBlocked, w')) :
    P (userIsBlocked id w) := query_bind_induct fault missing found

/-- A session is looked up by its refresh token. -/
theorem getSession_induct {token : String} {P : Except Failure Session × World → Prop}
    (fault : ∀ w', w.faultIn = 1 → w.Quiet w' →
      P (.error Call.getSessionByRefreshToken.unanswered, w'))
    (missing : ∀ w', w.faultIn ≠ 1 → w.store.sessionByToken? token = none → w.Quiet w' →
      P (.error (.app (.notFound "session")), w'))
    (found : ∀ s w', w.faultIn ≠ 1 → w.store.sessionByToken? token = some s → w.Quiet w' →
      w'.faultIn = w.faultIn - 1 → P (.ok s, w')) :
    P (getSession token w) := query_bind_induct fault missing found

/-- A change that nothing can abort commits if the storage answers. -/
theorem commit_induct {call : Call} (change : Store → Store)
    {P : Except Failure Unit × World → Prop}
    (fault : ∀ w', w.faultIn = 1 → w.Quiet w' → P (.error call.unanswered, w'))
    (committed : ∀ w', w.faultIn ≠ 1 → w.Yields (change w.store) w' → P (.ok (), w')) :
    P (transact call (fun w => .ok ((), change w.store)) w) := by
  refine transact_induct fault (fun v abort w' _ _ hb => nomatch hb) ?_
  intro v a store w' hf hv hb hw _
  obtain ⟨-, rfl⟩ := Prod.mk.inj (Except.ok.inj hb)
  rw [hv.store_eq] at hw
  exact committed w' hf hw

/-- A session is rotated: the storage answers or does not, the session is there under the token
presented or not, and its new token is held by another one or not. -/
theorem refreshSession_induct {renewed : Session} {previous : String}
    {P : Except Failure Unit × World → Prop}
    (fault : ∀ w', w.faultIn = 1 → w.Quiet w' → P (.error Call.refreshSession.unanswered, w'))
    (lost : ∀ w', w.faultIn ≠ 1 → w.store.canRotate renewed previous = false → w.Quiet w' →
      P (.error (.app .lostRotation), w'))
    (clashed : ∀ w', w.faultIn ≠ 1 → w.store.canRotate renewed previous = true →
      w.store.isTokenHeld renewed previous = true → w.Quiet w' →
      P (.error Call.refreshSession.unanswered, w'))
    (rotated : ∀ w', w.faultIn ≠ 1 → w.store.canRotate renewed previous = true →
      w.store.isTokenHeld renewed previous = false →
      w.Yields (w.store.rotate renewed previous) w' → P (.ok (), w')) :
    P (refreshSession renewed previous w) := by
  unfold refreshSession
  rw [Act.bind_eq_resume]
  refine transact_induct (P := fun p => P (Act.resume _ p)) fault ?_ ?_
  · intro v abort w' hf hv hb hw
    rw [hv.store_eq] at hb
    cases hc : w.store.canRotate renewed previous with
    | false => simp [hc] at hb
    | true =>
      cases hh : w.store.isTokenHeld renewed previous with
      | false => simp [hc, hh] at hb
      | true =>
        obtain rfl : Abort.duplicate = abort := by simpa [hc, hh] using hb
        exact clashed w' hf hc hh hw
  · intro v found store w' hf hv hb hw _
    rw [hv.store_eq] at hb
    cases hc : w.store.canRotate renewed previous with
    | false =>
      obtain ⟨rfl, rfl⟩ : false = found ∧ w.store = store := by simpa [hc] using hb
      exact lost w' hf hc hw
    | true =>
      cases hh : w.store.isTokenHeld renewed previous with
      | true => simp [hc, hh] at hb
      | false =>
        obtain ⟨rfl, rfl⟩ : true = found ∧ w.store.rotate renewed previous = store := by
          simpa [hc, hh] using hb
        exact rotated w' hf hc hh hw

/-- What can be said of a deletion, of one session or of all sessions of an owner. -/
theorem removeSession_induct {owner id : Uuid} {P : Except Failure Unit × World → Prop}
    (fault : ∀ w', w.faultIn = 1 → w.Quiet w' → P (.error Call.deleteSession.unanswered, w'))
    (removed : ∀ w', w.faultIn ≠ 1 → w.Yields (w.store.deleteSession owner id) w' →
      P (.ok (), w')) :
    P (removeSession owner id w) := commit_induct (·.deleteSession owner id) fault removed

theorem removeSessions_induct {owner : Uuid} {P : Except Failure Unit × World → Prop}
    (fault : ∀ w', w.faultIn = 1 → w.Quiet w' → P (.error Call.deleteAllSessions.unanswered, w'))
    (removed : ∀ w', w.faultIn ≠ 1 → w.Yields (w.store.deleteSessions owner) w' → P (.ok (), w')) :
    P (removeSessions owner w) := commit_induct (·.deleteSessions owner) fault removed

/-- A session is stored if the storage answers and no other one has its identifier or token. -/
theorem storeSession_induct {owner : Uuid} {session : Session}
    {P : Except Failure Unit × World → Prop}
    (fault : ∀ w', w.faultIn = 1 → w.Quiet w' → P (.error Call.storeSession.unanswered, w'))
    (held : ∀ w', w.store.hasSession { session with owner } = true → w.Quiet w' →
      P (.error Call.storeSession.unanswered, w'))
    (stored : ∀ w', w.store.hasSession { session with owner } = false →
      w.Yields (w.store.addSession { session with owner }) w' → P (.ok (), w')) :
    P (storeSession owner session w) := by
  refine transact_induct fault ?_ ?_
  · intro v abort w' _ hv hb hw
    simp only [hv.store_eq] at hb
    split at hb
    · next taken =>
      obtain rfl := Except.error.inj hb
      exact held w' taken hw
    · exact nomatch hb
  · intro v _ store w' _ hv hb hw _
    simp only [hv.store_eq] at hb
    split at hb
    · exact nomatch hb
    · next free =>
      obtain ⟨-, rfl⟩ := Prod.mk.inj (Except.ok.inj hb)
      exact stored w' (by simpa using free) hw

/-- An account is created: the storage answers or does not, the clock shows a date or does not, and
the account clashes with another one or is added. -/
theorem createUser_cases {id : Uuid} {email username passwordHash : String}
    {P : Except Failure Uuid × World → Prop}
    (fault : ∀ w', w.faultIn = 1 → w.Quiet w' → P (.error Call.createUser.unanswered, w'))
    (undated : ∀ w', Instant.isDate w.now = false → w.Quiet w' → P (.error .noDate, w'))
    (clashed : ∀ u w', u = ⟨id, email, username, passwordHash, w.now, false⟩ →
      w.store.hasCrossedName u = true ∨ w.store.hasSameColumn u = true → w.Quiet w' →
      P (.error (.app (.conflict "user")), w'))
    (created : ∀ u w', u = ⟨id, email, username, passwordHash, w.now, false⟩ →
      w.store.hasCrossedName u = false → w.store.hasSameColumn u = false →
      w.Yields (w.store.addUser u) w' → P (.ok id, w')) :
    P (createUser id email username passwordHash w) := by
  refine transact_induct fault ?_ ?_
  · intro v abort w' _ hv hb hw
    simp only [hv.store_eq, hv.now_eq] at hb
    split at hb
    · next crossed =>
      obtain rfl := Except.error.inj hb
      exact clashed _ w' rfl (.inl crossed) hw
    split at hb
    · next date =>
      obtain rfl := Except.error.inj hb
      exact undated w' (by simpa using date) hw
    split at hb
    · next same =>
      obtain rfl := Except.error.inj hb
      exact clashed _ w' rfl (.inr same) hw
    · exact nomatch hb
  · intro v a store w' _ hv hb hw _
    simp only [hv.store_eq, hv.now_eq] at hb
    split at hb
    · exact nomatch hb
    next crossed =>
    split at hb
    · exact nomatch hb
    split at hb
    · exact nomatch hb
    next same =>
    obtain ⟨rfl, rfl⟩ := Prod.mk.inj (Except.ok.inj hb)
    exact created _ w' rfl (by simpa using crossed) (by simpa using same) hw

/-- An account is added if the storage answers, the clock shows a date and no other account has its
identifier or a name of it. -/
theorem createUser_induct {id : Uuid} {email username passwordHash : String}
    {P : Except Failure Uuid × World → Prop}
    (refused : ∀ e w', w.Quiet w' → P (.error e, w'))
    (created : ∀ u w', u = ⟨id, email, username, passwordHash, w.now, false⟩ →
      w.store.hasCrossedName u = false → w.store.hasSameColumn u = false →
      w.Yields (w.store.addUser u) w' → P (.ok id, w')) :
    P (createUser id email username passwordHash w) :=
  createUser_cases (fun w' _ hw => refused _ w' hw) (fun w' _ hw => refused _ w' hw)
    (fun _ w' _ _ hw => refused _ w' hw) created

/-- An account without all of its texts is not added. -/
theorem enrol_induct {id : Uuid} {email username passwordHash : Argument}
    {P : Except Failure Uuid × World → Prop}
    (refused : ∀ e w', w.Quiet w' → P (.error e, w'))
    (created : ∀ u w', (email = .text u.email ∧ username = .text u.username ∧
        passwordHash = .text u.passwordHash) →
      u = ⟨id, u.email, u.username, u.passwordHash, w.now, false⟩ →
      w.store.hasCrossedName u = false → w.store.hasSameColumn u = false →
      w.Yields (w.store.addUser u) w' → P (.ok id, w')) :
    P (enrol id email username passwordHash w) := by
  unfold enrol
  split
  · refine createUser_induct refused fun u w' row uncrossed unique hw => ?_
    subst row
    exact created _ w' ⟨rfl, rfl, rfl⟩ rfl uncrossed unique hw
  · refine transact_induct (fun w' _ hw => refused _ w' hw)
      (fun v abort w' _ _ _ hw => refused _ w' hw) ?_
    intro v a store w' _ _ hb _ _
    simp only at hb
    split at hb
    · exact nomatch hb
    · split at hb <;> exact nomatch hb

/-- The flag of an account is set, or it is found out that there is no such account. -/
theorem blockUser_induct {id : Uuid} {blocked : Bool} {P : Except Failure Unit × World → Prop}
    (fault : ∀ w', w.faultIn = 1 → w.Quiet w' → P (.error Call.setBlocked.unanswered, w'))
    (missing : ∀ w', w.store.user? id = none → w.Yields (w.store.setBlocked id blocked) w' →
      P (.error (.app (.notFound "user")), w'))
    (flagged : ∀ u w', w.store.user? id = some u → w.Yields (w.store.setBlocked id blocked) w' →
      P (.ok (), w')) :
    P (blockUser id blocked w) := by
  unfold blockUser
  rw [Act.bind_eq_resume]
  refine transact_induct (P := fun p => P (Act.resume _ p)) fault
    (fun v abort w' _ _ hb _ => nomatch hb) ?_
  intro v found store w' _ hv hb hw _
  rw [hv.store_eq] at hb
  obtain ⟨rfl, rfl⟩ := Prod.mk.inj (Except.ok.inj hb)
  cases hu : w.store.user? id with
  | none => exact missing w' hu hw
  | some u => exact flagged u w' hu hw

/-- A flag that is no truth value is set nowhere. -/
theorem flagUser_induct (id : Uuid) (flag : Flag) (untrue : ∀ blocked, flag ≠ .known blocked)
    {P : Except Failure Unit × World → Prop} (refused : ∀ e w', w.Quiet w' → P (.error e, w')) :
    P (flagUser id flag w) := by
  cases flag with
  | known blocked => exact absurd rfl (untrue blocked)
  | nothing =>
    unfold flagUser
    simp only
    rw [Act.bind_eq_resume]
    refine transact_induct (P := fun p => P (Act.resume _ p)) (fun w' _ hw => refused _ w' hw)
      (fun v abort w' _ _ _ hw => refused _ w' hw) ?_
    intro v _ store w' _ hv hb hw _
    rw [hv.store_eq] at hb
    split at hb
    · exact nomatch hb
    · obtain ⟨-, rfl⟩ := Prod.mk.inj (Except.ok.inj hb)
      exact refused _ w' hw
  | unfit =>
    unfold flagUser
    simp only
    exact transact_induct (fun w' _ hw => refused _ w' hw)
      (fun v abort w' _ _ _ hw => refused _ w' hw) fun v a store w' _ _ hb _ _ => nomatch hb

end Store
end LoginGate
