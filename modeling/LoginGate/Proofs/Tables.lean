import LoginGate.Store
import Mathlib.Data.List.Nodup

/-!
# Proofs/Tables — what the tables keep apart

Sessions are kept apart by their identifiers and by their refresh tokens (`Keyed`), accounts by
their identifiers and by every name that they answer to (`Apart`). Each column is unique by itself;
that a name does not stand in one column for one account and in the other column for another is seen
to when an account is added. A storage call leaves the tables alone or changes them in one of six
ways (`Change`), and none of these brings two rows together.
-/

namespace LoginGate.Store

/-! ## One row among others -/

section Rows

variable {α β : Type} {before after : List α} {a : α}

/-- A row that has its key to itself is the only one with that key. -/
theorem key_ne_of_split {key : α → β} (apart : ((before ++ a :: after).map key).Nodup) :
    ∀ b ∈ before ++ after, key b ≠ key a := by
  rw [List.map_append, List.map_cons, List.nodup_middle, ← List.map_append,
    List.nodup_cons] at apart
  intro b mem same
  exact apart.1 (List.mem_map.mpr ⟨b, mem, same⟩)

/-- A change of the rows that meet a condition is a change of the one row that does. -/
theorem map_split (p : α → Prop) [DecidablePred p] (f : α → α) (met : p a)
    (others : ∀ b ∈ before ++ after, ¬ p b) :
    (before ++ a :: after).map (fun b => if p b then f b else b) = before ++ f a :: after := by
  have kept {rows : List α} (part : ∀ b ∈ rows, b ∈ before ++ after) :
      rows.map (fun b => if p b then f b else b) = rows := by
    refine (List.map_congr_left fun b mem => ?_).trans (List.map_id rows)
    rw [if_neg (others b (part b mem)), id]
  rw [List.map_append, List.map_cons, if_pos met, kept fun b => List.mem_append_left _,
    kept fun b => List.mem_append_right _]

/-- A deletion of the rows that meet a condition is a deletion of the one row that does. -/
theorem filter_split (p : α → Bool) (met : p a = true)
    (others : ∀ b ∈ before ++ after, p b = false) :
    (before ++ a :: after).filter (fun b => !p b) = before ++ after := by
  have kept : (before ++ after).filter (fun b => !p b) = before ++ after :=
    List.filter_eq_self.mpr fun b mem => by rw [others b mem, Bool.not_false]
  rw [List.filter_append, List.filter_cons_of_neg (by simp [met]), ← List.filter_append, kept]

end Rows

variable {store : Store}

/-! ## Which sessions are there after a change -/

theorem isRotatable_iff {renewed : Session} {previous : String} {t : Session} :
    isRotatable renewed previous t = true ↔
      t.id = renewed.id ∧ t.owner = renewed.owner ∧ t.refreshToken = previous := by
  simp [isRotatable, and_assoc]

theorem canRotate_iff {renewed : Session} {previous : String} :
    store.canRotate renewed previous = true ↔ ∃ t ∈ store.sessions,
      t.id = renewed.id ∧ t.owner = renewed.owner ∧ t.refreshToken = previous := by
  simp only [canRotate, List.any_eq_true, isRotatable_iff]

/-- The new token is held by no other session. -/
theorem isTokenHeld_eq_false_iff {renewed : Session} {previous : String} :
    store.isTokenHeld renewed previous = false ↔ ∀ t ∈ store.sessions,
      isRotatable renewed previous t = false → t.refreshToken ≠ renewed.refreshToken := by
  simp only [isTokenHeld, List.any_eq_false, Bool.and_eq_true, beq_iff_eq, Bool.not_eq_true',
    not_and, Bool.not_eq_false]
  exact forall₂_congr fun t _ => by cases isRotatable renewed previous t <;> simp

/-- What a rotation makes of a session. -/
theorem mem_rotate {renewed : Session} {previous : String} {s : Session}
    (h : s ∈ (store.rotate renewed previous).sessions) :
    s ∈ store.sessions ∧ isRotatable renewed previous s = false ∨
      ∃ old ∈ store.sessions, isRotatable renewed previous old = true ∧
        s = old.rotated renewed.refreshToken renewed.created renewed.expires := by
  obtain ⟨old, mem, rfl⟩ := List.mem_map.mp h
  split
  · next hr => exact .inr ⟨old, mem, hr, rfl⟩
  · next hr => exact .inl ⟨mem, by simpa using hr⟩

theorem mem_deleteSession {owner id : Uuid} {s : Session} :
    s ∈ (store.deleteSession owner id).sessions ↔
      s ∈ store.sessions ∧ ¬ (s.id = id ∧ s.owner = owner) := by
  simp only [deleteSession, List.mem_filter, Bool.not_eq_true', Bool.and_eq_false_iff,
    beq_eq_false_iff_ne, ne_eq, not_and_or]

theorem mem_deleteSessions {owner : Uuid} {s : Session} :
    s ∈ (store.deleteSessions owner).sessions ↔ s ∈ store.sessions ∧ s.owner ≠ owner := by
  simp [deleteSessions]

theorem sessions_addUser (store : Store) (u : User) : (store.addUser u).sessions = store.sessions :=
  rfl

theorem sessions_setBlocked (store : Store) (id : Uuid) (blocked : Bool) :
    (store.setBlocked id blocked).sessions = store.sessions := rfl

/-! ## One identifier, one refresh token, one session -/

/-- The refresh tokens stored. -/
def refreshTokens (store : Store) : List String := store.sessions.map (·.refreshToken)

/-- The identifiers of the sessions stored. -/
def sessionIds (store : Store) : List Uuid := store.sessions.map (·.id)

theorem mem_refreshTokens {t : String} :
    t ∈ store.refreshTokens ↔ ∃ s ∈ store.sessions, s.refreshToken = t := List.mem_map

theorem mem_sessionIds {id : Uuid} :
    id ∈ store.sessionIds ↔ ∃ s ∈ store.sessions, s.id = id := List.mem_map

/-- A rotation changes no identifier. -/
theorem sessionIds_rotate (store : Store) (renewed : Session) (previous : String) :
    (store.rotate renewed previous).sessionIds = store.sessionIds := by
  unfold sessionIds rotate
  rw [List.map_map]
  refine List.map_congr_left fun t _ => ?_
  simp only [Function.comp_apply]
  split <;> rfl

/-- **What the storage keeps apart by itself**: no two sessions share an identifier or a refresh
token. -/
structure Keyed (store : Store) : Prop where
  ids : store.sessionIds.Nodup
  tokens : store.refreshTokens.Nodup

namespace Keyed

theorem eq_of_id (h : store.Keyed) {a b : Session} (ha : a ∈ store.sessions)
    (hb : b ∈ store.sessions) (hab : a.id = b.id) : a = b :=
  List.inj_on_of_nodup_map h.ids ha hb hab

theorem eq_of_token (h : store.Keyed) {a b : Session} (ha : a ∈ store.sessions)
    (hb : b ∈ store.sessions) (hab : a.refreshToken = b.refreshToken) : a = b :=
  List.inj_on_of_nodup_map h.tokens ha hb hab

theorem empty : Store.empty.Keyed := ⟨List.nodup_nil, List.nodup_nil⟩

/-- A deletion leaves a part of the sessions. -/
theorem filter (h : store.Keyed) (p : Session → Bool) :
    Keyed { store with sessions := store.sessions.filter p } :=
  ⟨h.ids.sublist (List.filter_sublist.map _), h.tokens.sublist (List.filter_sublist.map _)⟩

theorem addSession (h : store.Keyed) {s : Session} (unique : store.hasSession s = false) :
    (store.addSession s).Keyed := by
  have apart : ∀ t ∈ store.sessions, t.id ≠ s.id ∧ t.refreshToken ≠ s.refreshToken := by
    simpa [hasSession] using unique
  constructor
  · unfold sessionIds Store.addSession
    rw [List.map_append, List.map_singleton, ← List.concat_eq_append]
    refine h.ids.concat fun mem => ?_
    obtain ⟨t, ht, hid⟩ := mem_sessionIds.mp mem
    exact (apart t ht).1 hid
  · unfold refreshTokens Store.addSession
    rw [List.map_append, List.map_singleton, ← List.concat_eq_append]
    refine h.tokens.concat fun mem => ?_
    obtain ⟨t, ht, htok⟩ := mem_refreshTokens.mp mem
    exact (apart t ht).2 htok

theorem rotate (h : store.Keyed) {renewed : Session} {previous : String}
    (free : store.isTokenHeld renewed previous = false) :
    (store.rotate renewed previous).Keyed := by
  have unheld := isTokenHeld_eq_false_iff.mp free
  constructor
  · rw [sessionIds_rotate]
    exact h.ids
  · unfold refreshTokens Store.rotate
    rw [List.map_map]
    refine List.Nodup.map_on ?_ (List.Nodup.of_map _ h.ids)
    intro a ha b hb hab
    simp only [Function.comp_apply] at hab
    split at hab
    · next hra =>
      split at hab
      · next hrb =>
        have ida := (isRotatable_iff.mp hra).1
        have idb := (isRotatable_iff.mp hrb).1
        exact h.eq_of_id ha hb (ida.trans idb.symm)
      · next hrb => exact absurd hab.symm (unheld b hb (by simpa using hrb))
    · next hra =>
      split at hab
      · next hrb => exact absurd hab (unheld a ha (by simpa using hra))
      · exact h.eq_of_token ha hb hab

/-- No other session has the identifier of a session. -/
theorem id_ne_of_split (h : store.Keyed) {before after : List Session} {s : Session}
    (split : store.sessions = before ++ s :: after) : ∀ t ∈ before ++ after, t.id ≠ s.id := by
  have ids := h.ids
  rw [sessionIds, split] at ids
  exact key_ne_of_split ids

/-- **A rotation changes one session.** -/
theorem rotate_split (h : store.Keyed) {before after : List Session} {s renewed : Session}
    {previous : String} (split : store.sessions = before ++ s :: after)
    (there : isRotatable renewed previous s = true) : store.rotate renewed previous =
      { store with sessions :=
          before ++ s.rotated renewed.refreshToken renewed.created renewed.expires :: after } := by
  have others := h.id_ne_of_split split
  unfold Store.rotate
  rw [split, map_split (fun t => isRotatable renewed previous t = true)
    (·.rotated renewed.refreshToken renewed.created renewed.expires) there
    fun t mem rotatable => others t mem ?_]
  exact (isRotatable_iff.mp rotatable).1.trans (isRotatable_iff.mp there).1.symm

/-- **A deletion takes one session away.** -/
theorem deleteSession_split (h : store.Keyed) {before after : List Session} {s : Session}
    (split : store.sessions = before ++ s :: after) :
    store.deleteSession s.owner s.id = { store with sessions := before ++ after } := by
  have others := h.id_ne_of_split split
  have met : (s.id == s.id && s.owner == s.owner) = true := by simp
  unfold Store.deleteSession
  rw [split, filter_split (fun t : Session => t.id == s.id && t.owner == s.owner) met
    fun t mem => ?_]
  rw [beq_eq_false_iff_ne.mpr (others t mem), Bool.false_and]

end Keyed

/-! ## One identifier, one name, one account -/

theorem answersTo_iff {u : User} {login : String} :
    u.answersTo login = true ↔ u.username = login ∨ u.email = login := by
  simp [User.answersTo]

/-- What a newcomer can clash with: an account under its identifier, or one that has one of its
names in either column. -/
theorem clashes_iff {u : User} :
    store.hasCrossedName u = true ∨ store.hasSameColumn u = true ↔ ∃ v ∈ store.users,
      v.id = u.id ∨ ∃ name ∈ [u.username, u.email], v.username = name ∨ v.email = name := by
  simp only [hasCrossedName, hasSameColumn, List.any_eq_true, Bool.or_eq_true, beq_iff_eq,
    ← exists_or, ← and_or_left]
  refine exists_congr fun v => and_congr_right fun _ => ?_
  simp only [List.mem_cons, List.not_mem_nil, or_false, exists_eq_or_imp, exists_eq_left]
  grind

/-- A newcomer that clashes with nothing shares no identifier and no name. -/
theorem silent_of_unclashed {u v : User} (uncrossed : store.hasCrossedName u = false)
    (unique : store.hasSameColumn u = false) (hv : v ∈ store.users) :
    v.id ≠ u.id ∧ ∀ login, v.answersTo login = true → u.answersTo login ≠ true := by
  have free : ¬ ∃ v ∈ store.users,
      v.id = u.id ∨ ∃ name ∈ [u.username, u.email], v.username = name ∨ v.email = name := by
    rw [← clashes_iff, uncrossed, unique]
    decide
  refine ⟨fun same => free ⟨v, hv, .inl same⟩, fun login held claimed => ?_⟩
  refine free ⟨v, hv, .inr ⟨login, ?_, answersTo_iff.mp held⟩⟩
  obtain rfl | rfl := answersTo_iff.mp claimed
  · exact List.mem_cons_self
  · exact List.mem_cons_of_mem _ List.mem_cons_self

/-- The account found by a name is there and answers to the name. -/
theorem userByLogin?_eq_some {login : String} {u : User} (h : store.userByLogin? login = some u) :
    u ∈ store.users ∧ u.answersTo login = true :=
  ⟨List.mem_of_find?_eq_some h, List.find?_some (p := (User.answersTo · login)) h⟩

/-- The account found by an identifier is there, under that identifier. -/
theorem user?_eq_some {id : Uuid} {u : User} (h : store.user? id = some u) :
    u ∈ store.users ∧ u.id = id :=
  ⟨List.mem_of_find?_eq_some h, by simpa using List.find?_some h⟩

/-- An account that is there is found by its identifier. -/
theorem user?_ne_none {u : User} (hu : u ∈ store.users) : store.user? u.id ≠ none := by
  intro missing
  have other := List.find?_eq_none.mp missing u hu
  simp at other

/-- The flag of an account that is not there is set nowhere. -/
theorem setBlocked_of_missing {id : Uuid} (missing : store.user? id = none) (blocked : Bool) :
    store.setBlocked id blocked = store := by
  have others : ∀ u ∈ store.users, u.id ≠ id := by
    simpa using List.find?_eq_none.mp missing
  have kept : (store.users.map fun u => if u.id = id then { u with isBlocked := blocked } else u) =
      store.users :=
    (List.map_congr_left fun u mem => if_neg (others u mem)).trans (List.map_id _)
  rw [setBlocked, kept]

/-- The identifiers of the accounts. -/
def userIds (store : Store) : List Uuid := store.users.map (·.id)

/-- **Accounts are apart**: no two share an identifier, and none answers to a name of another. -/
structure Apart (store : Store) : Prop where
  ids : store.userIds.Nodup
  logins : ∀ u ∈ store.users, ∀ v ∈ store.users, ∀ login,
    u.answersTo login = true → v.answersTo login = true → u = v

namespace Apart

theorem empty : Store.empty.Apart := ⟨List.nodup_nil, fun _ hu => absurd hu List.not_mem_nil⟩

/-- The account that answers to a name is the one that is found by it. -/
theorem userByLogin?_eq_some_iff (h : store.Apart) {login : String} {u : User} :
    store.userByLogin? login = some u ↔ u ∈ store.users ∧ u.answersTo login = true := by
  refine ⟨userByLogin?_eq_some, fun ⟨hu, answers⟩ => ?_⟩
  cases found : store.userByLogin? login with
  | none => exact absurd answers (List.find?_eq_none.mp found u hu)
  | some v =>
    obtain ⟨hv, told⟩ := userByLogin?_eq_some found
    rw [h.logins v hv u hu login told answers]

/-- An account is the one found by its identifier. -/
theorem user?_eq_some (h : store.Apart) {u : User} (hu : u ∈ store.users) :
    store.user? u.id = some u := by
  cases found : store.user? u.id with
  | none => exact absurd found (user?_ne_none hu)
  | some v =>
    obtain ⟨hv, same⟩ := Store.user?_eq_some found
    rw [List.inj_on_of_nodup_map h.ids hv hu same]

/-- A newcomer whose names stand in neither column is apart from the accounts there are. -/
theorem addUser (h : store.Apart) {u : User} (uncrossed : store.hasCrossedName u = false)
    (unique : store.hasSameColumn u = false) : (store.addUser u).Apart := by
  have silent {v : User} (hv : v ∈ store.users) := silent_of_unclashed uncrossed unique hv
  constructor
  · unfold userIds Store.addUser
    rw [List.map_append, List.map_singleton, ← List.concat_eq_append]
    refine h.ids.concat fun mem => ?_
    obtain ⟨v, hv, id⟩ := List.mem_map.mp mem
    exact (silent hv).1 id
  · intro a ha b hb login hal hbl
    rcases List.mem_append.mp ha with old_a | new_a <;>
      rcases List.mem_append.mp hb with old_b | new_b
    · exact h.logins a old_a b old_b login hal hbl
    · obtain rfl := List.mem_singleton.mp new_b
      exact absurd hbl ((silent old_a).2 login hal)
    · obtain rfl := List.mem_singleton.mp new_a
      exact absurd hal ((silent old_b).2 login hbl)
    · rw [List.mem_singleton.mp new_a, List.mem_singleton.mp new_b]

/-- No other account has the identifier of an account. -/
theorem id_ne_of_split (h : store.Apart) {before after : List User} {u : User}
    (split : store.users = before ++ u :: after) : ∀ v ∈ before ++ after, v.id ≠ u.id := by
  have ids := h.ids
  rw [userIds, split] at ids
  exact key_ne_of_split ids

/-- **A flag is set on one account.** -/
theorem setBlocked_split (h : store.Apart) {before after : List User} {u : User}
    (split : store.users = before ++ u :: after) (blocked : Bool) :
    store.setBlocked u.id blocked =
      { store with users := before ++ { u with isBlocked := blocked } :: after } := by
  unfold Store.setBlocked
  rw [split, map_split (fun v : User => v.id = u.id) ({ · with isBlocked := blocked }) rfl
    (h.id_ne_of_split split)]

/-- A flag is no part of what keeps accounts apart. -/
theorem setBlocked (h : store.Apart) (id : Uuid) (blocked : Bool) :
    (store.setBlocked id blocked).Apart := by
  have names : ∀ (u : User) login,
      (if u.id = id then { u with isBlocked := blocked } else u).answersTo login =
        u.answersTo login := by
    intro u login
    split <;> rfl
  constructor
  · have ids : (store.setBlocked id blocked).userIds = store.userIds := by
      unfold userIds Store.setBlocked
      rw [List.map_map]
      refine List.map_congr_left fun u _ => ?_
      simp only [Function.comp_apply]
      split <;> rfl
    rw [ids]
    exact h.ids
  · intro a ha b hb login hal hbl
    obtain ⟨u, hu, rfl⟩ := List.mem_map.mp ha
    obtain ⟨v, hv, rfl⟩ := List.mem_map.mp hb
    rw [names] at hal hbl
    rw [h.logins u hu v hv login hal hbl]

end Apart

/-! ## Changes of the tables -/

/-- **What a storage call makes of the tables.** -/
inductive Change (store : Store) : Store → Prop where
  | none : Change store store
  | userAdded (u : User) (uncrossed : store.hasCrossedName u = false)
    (unique : store.hasSameColumn u = false) : Change store (store.addUser u)
  | flagged (id : Uuid) (blocked : Bool) : Change store (store.setBlocked id blocked)
  | sessionAdded (s : Session) (unique : store.hasSession s = false) :
    Change store (store.addSession s)
  | rotated (renewed : Session) (previous : String)
    (free : store.isTokenHeld renewed previous = false) :
    Change store (store.rotate renewed previous)
  | deleted (owner id : Uuid) : Change store (store.deleteSession owner id)
  | deletedAll (owner : Uuid) : Change store (store.deleteSessions owner)

namespace Change

variable {after : Store}

theorem of_eq (h : after = store) : store.Change after := h ▸ .none

/-- **No change brings two sessions together.** -/
theorem keyed (h : store.Change after) (keyed : store.Keyed) : after.Keyed := by
  cases h with
  | none => exact keyed
  | userAdded | flagged => exact ⟨keyed.ids, keyed.tokens⟩
  | sessionAdded s unique => exact keyed.addSession unique
  | rotated renewed previous free => exact keyed.rotate free
  | deleted | deletedAll => exact keyed.filter _

/-- **No change brings two accounts together.** -/
theorem apart (h : store.Change after) (apart : store.Apart) : after.Apart := by
  cases h with
  | userAdded u uncrossed unique => exact apart.addUser uncrossed unique
  | flagged id blocked => exact apart.setBlocked id blocked
  | none | sessionAdded | rotated | deleted | deletedAll => exact ⟨apart.ids, apart.logins⟩

/-- **An account stays** as it is, but for its flag. -/
theorem user_stays (h : store.Change after) {u : User} (hu : u ∈ store.users) :
    ∃ blocked, { u with isBlocked := blocked } ∈ after.users := by
  cases h with
  | userAdded v => exact ⟨u.isBlocked, List.mem_append_left _ hu⟩
  | flagged id blocked =>
    by_cases same : u.id = id
    · exact ⟨blocked, List.mem_map.mpr ⟨u, hu, if_pos same⟩⟩
    · exact ⟨u.isBlocked, List.mem_map.mpr ⟨u, hu, if_neg same⟩⟩
  | none | sessionAdded | rotated | deleted | deletedAll => exact ⟨u.isBlocked, hu⟩

end Change
end LoginGate.Store
