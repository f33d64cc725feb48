import LoginGate.Proofs.Storage
import LoginGate.Proofs.Tables
import LoginGate.Service.Basic

/-!
# Proofs/Storage/Logins — whatever is written, a name belongs to one account

The tables are written by six calls (`Write`), whose arguments may be anything. Whichever of them
have been made, and however they have ended, accounts and sessions are apart; so a name, an
identifier or a refresh token meets one row at most, and what a look-up answers does not depend on
the order of the rows.
-/

namespace LoginGate.Store

/-! ## The calls that write -/

/-- **A storage call that writes**, with its arguments. -/
inductive Write where
  | createUser (id : Uuid) (email username passwordHash : Argument)
  | setBlocked (id : Uuid) (flag : Flag)
  | storeSession (owner : Uuid) (session : Session)
  | refreshSession (renewed : Session) (previous : String)
  | deleteSession (owner id : Uuid)
  | deleteAllSessions (owner : Uuid)

namespace Write

/-- The world after a call, whether it has returned or failed. -/
def after (w : World) : Write → World
  | .createUser id email username passwordHash => (enrol id email username passwordHash w).2
  | .setBlocked id flag => (flagUser id flag w).2
  | .storeSession owner session => (Store.storeSession owner session w).2
  | .refreshSession renewed previous => (Store.refreshSession renewed previous w).2
  | .deleteSession owner id => (removeSession owner id w).2
  | .deleteAllSessions owner => (removeSessions owner w).2

/-- **What a call makes of the tables**, whether it has returned or failed. -/
theorem change (write : Write) (w : World) : w.store.Change (write.after w).store := by
  have quiet {w' : World} (h : w.Quiet w') : w.store.Change w'.store := .of_eq h.store_eq
  have made {w' : World} {store : Store} (h : w.Yields store w') (change : w.store.Change store) :
      w.store.Change w'.store := h.store_eq ▸ change
  cases write with
  | createUser id email username passwordHash =>
    exact enrol_induct (P := fun p => w.store.Change p.2.store) (fun _ _ => quiet)
      fun u _ _ _ uncrossed unique h => made h (.userAdded u uncrossed unique)
  | setBlocked id flag =>
    cases flag with
    | known blocked =>
      exact blockUser_induct (P := fun p => w.store.Change p.2.store) (fun _ _ => quiet)
        (fun _ _ h => made h (.flagged id blocked)) fun _ _ _ h => made h (.flagged id blocked)
    | nothing =>
      exact flagUser_induct id .nothing nofun (P := fun p => w.store.Change p.2.store)
        fun _ _ => quiet
    | unfit =>
      exact flagUser_induct id .unfit nofun (P := fun p => w.store.Change p.2.store)
        fun _ _ => quiet
  | storeSession owner session =>
    exact storeSession_induct (P := fun p => w.store.Change p.2.store) (fun _ _ => quiet)
      (fun _ _ => quiet) fun _ unique h => made h (.sessionAdded _ unique)
  | refreshSession renewed previous =>
    exact refreshSession_induct (P := fun p => w.store.Change p.2.store) (fun _ _ => quiet)
      (fun _ _ _ => quiet) (fun _ _ _ _ => quiet) fun _ _ _ free h => made h (.rotated _ _ free)
  | deleteSession owner id =>
    exact removeSession_induct (P := fun p => w.store.Change p.2.store) (fun _ _ => quiet)
      fun _ _ h => made h (.deleted owner id)
  | deleteAllSessions owner =>
    exact removeSessions_induct (P := fun p => w.store.Change p.2.store) (fun _ _ => quiet)
      fun _ _ h => made h (.deletedAll owner)

end Write

/-- **Tables that calls have led to**, from the empty ones on. Between two calls the clock may have
moved, the storage may have begun to fail, and whatever else there is may have changed. -/
inductive Written : Store → Prop where
  | empty : Written .empty
  | call {w : World} (write : Write) (before : Written w.store) : Written (write.after w).store

/-- Calls that follow one another. -/
theorem Written.calls {w : World} (h : Written w.store) (writes : List Write) :
    Written (writes.foldl Write.after w).store := by
  induction writes generalizing w with
  | nil => exact h
  | cons write writes ih => exact ih (.call write h)

variable {store : Store}

/-- **Whatever has been written, rows are apart.** -/
theorem Written.kept_apart (h : Written store) : store.Keyed ∧ store.Apart := by
  induction h with
  | empty => exact ⟨Keyed.empty, Apart.empty⟩
  | @call w write before ih =>
    have change := write.change w
    exact ⟨change.keyed ih.1, change.apart ih.2⟩

/-! ## One row at most -/

/-- Of rows that are apart one at most meets a condition that no two of them meet. -/
theorem length_filter_le_one {α : Type} {rows : List α} {p : α → Bool} (apart : rows.Nodup)
    (one : ∀ a ∈ rows, ∀ b ∈ rows, p a = true → p b = true → a = b) :
    (rows.filter p).length ≤ 1 := by
  have apart := apart.filter p
  match met : rows.filter p with
  | [] | [_] => simp
  | a :: b :: rest =>
    have ha : a ∈ rows ∧ p a = true := List.mem_filter.mp (met ▸ List.mem_cons_self)
    have hb : b ∈ rows ∧ p b = true :=
      List.mem_filter.mp (met ▸ List.mem_cons_of_mem a List.mem_cons_self)
    rw [met, one a ha.1 b hb.1 ha.2 hb.2] at apart
    simp at apart

/-- Accounts in another order are as far apart. -/
theorem Apart.of_perm (h : store.Apart) {users : List User} (perm : users.Perm store.users) :
    Apart { store with users } where
  ids := (perm.map User.id).nodup_iff.mpr h.ids
  logins u hu v hv := h.logins u (perm.mem_iff.mp hu) v (perm.mem_iff.mp hv)

/-- The account found by a name is the same in whatever order the rows stand. -/
theorem Apart.userByLogin?_of_perm (h : store.Apart) {users : List User}
    (perm : users.Perm store.users) (login : String) :
    userByLogin? { store with users } login = store.userByLogin? login := by
  refine Option.ext fun u => ?_
  rw [h.userByLogin?_eq_some_iff, (h.of_perm perm).userByLogin?_eq_some_iff]
  exact and_congr_left fun _ => perm.mem_iff

/-- **Names, identifiers and refresh tokens that lead to one row.** -/
structure Unambiguous (store : Store) : Prop where
  userIds : store.userIds.Nodup
  sessionIds : store.sessionIds.Nodup
  refreshTokens : store.refreshTokens.Nodup
  /-- No text is a name of two accounts, be it in one column or in two. -/
  logins : ∀ u ∈ store.users, ∀ v ∈ store.users, ∀ login,
    u.answersTo login = true → v.answersTo login = true → u = v
  one_account : ∀ login, (store.users.filter (·.answersTo login)).length ≤ 1
  /-- What the look-up of a name answers does not depend on the order of the accounts. -/
  order_free : ∀ users, users.Perm store.users → ∀ w : World, w.store = store → ∀ login,
    (getUserByLogin login { w with store := { store with users } }).1 = (getUserByLogin login w).1
  one_session : ∀ token, (store.sessions.filter (·.refreshToken == token)).length ≤ 1
  one_flag : ∀ id, (store.users.filter (·.id == id)).length ≤ 1

/-- **A name belongs to one account**, whatever storage calls have been made. -/
theorem unambiguous_of_written (h : Written store) : Unambiguous store := by
  obtain ⟨keyed, apart⟩ := h.kept_apart
  constructor
  · exact apart.ids
  · exact keyed.ids
  · exact keyed.tokens
  · exact apart.logins
  · intro login
    exact length_filter_le_one (List.Nodup.of_map _ apart.ids)
      fun u hu v hv told_u told_v => apart.logins u hu v hv login told_u told_v
  · rintro users perm w rfl login
    rw [getUserByLogin_fst, getUserByLogin_fst, apart.userByLogin?_of_perm perm]
  · intro token
    refine length_filter_le_one (List.Nodup.of_map _ keyed.ids) fun s hs t ht same_s same_t => ?_
    exact keyed.eq_of_token hs ht ((beq_iff_eq.mp same_s).trans (beq_iff_eq.mp same_t).symm)
  · intro id
    refine length_filter_le_one (List.Nodup.of_map _ apart.ids) fun u hu v hv same_u same_v => ?_
    exact List.inj_on_of_nodup_map apart.ids hu hv
      ((beq_iff_eq.mp same_u).trans (beq_iff_eq.mp same_v).symm)

/-- An account, another one whose two names are one text, a third one that asks for the email of the
first as its username, and a session. -/
def crossing : List Write :=
  [.createUser (Uuid.ofNat 1) (.text "ann@example.com") (.text "ann") (.text "hash"),
    .createUser (Uuid.ofNat 2) (.text "b@example.com") (.text "b@example.com") (.text "hash"),
    .createUser (Uuid.ofNat 3) (.text "c@example.com") (.text "ann@example.com") (.text "hash"),
    .storeSession (Uuid.ofNat 2) ⟨Uuid.ofNat 4, Uuid.ofNat 2, "r", 0, 1, "", none⟩]

/-- The tables that these calls lead to. -/
def crossed : Store := (crossing.foldl Write.after (Service.freshWorld 0 .info)).store

set_option maxRecDepth 100000 in
/-- The third account is not added; the name that it has asked for leads to the first one. -/
theorem crossed_unambiguous : Written crossed ∧ crossed.userIds = [Uuid.ofNat 1, Uuid.ofNat 2] ∧
    crossed.refreshTokens = ["r"] ∧ Unambiguous crossed := by
  have written : Written crossed := Written.empty.calls (w := Service.freshWorld 0 .info) crossing
  exact ⟨written, by decide +kernel, by decide +kernel, unambiguous_of_written written⟩

end LoginGate.Store
