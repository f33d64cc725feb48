import LoginGate.Proofs.Effect
import Mathlib.Data.Set.Function
import Mathlib.Order.Interval.Set.Basic

/-!
# Proofs/Sessions — what becomes of the sessions stored

A session stored after a request has come there in one of three ways (`Origin`): it was stored
before, or it has just been opened, or it is what a rotation has made of one that was stored. The
storage keeps identifiers and refresh tokens apart by itself (`Keyed`); that a value which is gone
does not come back takes draws that never repeat (`Unrepeated`).
-/

namespace LoginGate

/-! ## Draws -/

namespace Supply

/-- The identifiers drawn so far. -/
def idsDrawn (supply : Supply) (w : World) : Set Uuid := supply.id '' Set.Ioc 0 w.ids

/-- The refresh tokens drawn so far. -/
def tokensDrawn (supply : Supply) (w : World) : Set String := supply.token '' Set.Ioc 0 w.tokens

/-- **Draws that never repeat**: no identifier and no refresh token has come up twice so far. -/
structure Unrepeated (supply : Supply) (w : World) : Prop where
  ids : Set.InjOn supply.id (Set.Ioc 0 w.ids)
  tokens : Set.InjOn supply.token (Set.Ioc 0 w.tokens)

variable {supply : Supply} {w w' : World}

theorem idsDrawn_mono (h : w.ids ≤ w'.ids) : supply.idsDrawn w ⊆ supply.idsDrawn w' :=
  Set.image_mono (Set.Ioc_subset_Ioc_right h)

theorem tokensDrawn_mono (h : w.tokens ≤ w'.tokens) :
    supply.tokensDrawn w ⊆ supply.tokensDrawn w' :=
  Set.image_mono (Set.Ioc_subset_Ioc_right h)

theorem next_id_mem (h : w.ids < w'.ids) : supply.id (w.ids + 1) ∈ supply.idsDrawn w' :=
  ⟨w.ids + 1, ⟨Nat.succ_pos _, h⟩, rfl⟩

theorem next_token_mem (h : w.tokens < w'.tokens) :
    supply.token (w.tokens + 1) ∈ supply.tokensDrawn w' :=
  ⟨w.tokens + 1, ⟨Nat.succ_pos _, h⟩, rfl⟩

namespace Unrepeated

/-- What never repeats later on has not repeated before. -/
theorem anti (h : supply.Unrepeated w') (ids : w.ids ≤ w'.ids) (tokens : w.tokens ≤ w'.tokens) :
    supply.Unrepeated w :=
  ⟨h.ids.mono (Set.Ioc_subset_Ioc_right ids), h.tokens.mono (Set.Ioc_subset_Ioc_right tokens)⟩

/-- An identifier that is drawn next has not been drawn. -/
theorem next_id_notMem (h : supply.Unrepeated w') (lt : w.ids < w'.ids) :
    supply.id (w.ids + 1) ∉ supply.idsDrawn w := by
  have sub : Set.Ioc 0 w.ids ⊆ Set.Ioc 0 w'.ids := Set.Ioc_subset_Ioc_right lt.le
  have mem : w.ids + 1 ∈ Set.Ioc 0 w'.ids := ⟨Nat.succ_pos _, lt⟩
  intro drawn
  have bound := ((h.ids.mem_image_iff sub mem).mp drawn).2
  exact Nat.not_succ_le_self _ bound

/-- A refresh token that is drawn next has not been drawn. -/
theorem next_token_notMem (h : supply.Unrepeated w') (lt : w.tokens < w'.tokens) :
    supply.token (w.tokens + 1) ∉ supply.tokensDrawn w := by
  have sub : Set.Ioc 0 w.tokens ⊆ Set.Ioc 0 w'.tokens := Set.Ioc_subset_Ioc_right lt.le
  have mem : w.tokens + 1 ∈ Set.Ioc 0 w'.tokens := ⟨Nat.succ_pos _, lt⟩
  intro drawn
  have bound := ((h.tokens.mem_image_iff sub mem).mp drawn).2
  exact Nat.not_succ_le_self _ bound

end Unrepeated
end Supply

namespace Effect

variable {service : Service} {w w' : World}

/-- Time does not go back, and draws are not taken back. -/
theorem le (h : Effect service w w') :
    w.now ≤ w'.now ∧ w.ids ≤ w'.ids ∧ w.tokens ≤ w'.tokens ∧ w'.faultIn ≤ w.faultIn := by
  have of_yields {v : World} {store : Store} (after : v.Yields store w') :
      v.now ≤ w'.now ∧ v.ids ≤ w'.ids ∧ v.tokens ≤ w'.tokens ∧ w'.faultIn ≤ v.faultIn :=
    ⟨after.now_eq.ge, after.ids_eq.ge, after.tokens_eq.ge, after.faultIn_le⟩
  cases h with
  | idle store now ids tokens faultIn => exact ⟨now, ids, tokens, faultIn⟩
  | enrolled u id created unblocked uncrossed unique after =>
    obtain ⟨now, ids, rest⟩ := of_yields after
    exact ⟨now, Nat.le_of_succ_le ids, rest⟩
  | flagged id blocked after => exact of_yields after
  | opened s id token owner created within issued unique after =>
    obtain ⟨now, ids, tokens, faultIn⟩ := of_yields after
    exact ⟨now, Nat.le_of_succ_le ids, Nat.le_of_succ_le tokens, faultIn⟩
  | rotated session token expires live within there free after =>
    obtain ⟨now, ids, tokens, faultIn⟩ := of_yields after
    exact ⟨now, ids, Nat.le_of_succ_le tokens, faultIn⟩
  | ended owner id after => exact of_yields after
  | endedAll owner after => exact of_yields after

end Effect

/-! ## Where a stored session comes from -/

/-- **Where a session stored after a request comes from.** -/
inductive Origin (service : Service) (w w' : World) (s : Session) : Prop where
  /-- It was there. -/
  | kept (mem : s ∈ w.store.sessions)
  /-- It has been opened, under an identifier and a refresh token that have just been drawn. -/
  | opened (id : s.id = service.supply.id (w.ids + 1))
    (token : s.refreshToken = service.supply.token (w.tokens + 1))
    (ids : w'.ids = w.ids + 1) (tokens : w'.tokens = w.tokens + 1)
    (issued : ∃ accessToken, service.signer.issue s.owner w.now = .ok accessToken)
  /-- It is what a rotation has made of one that was there. -/
  | rotated (old : Session) (mem : old ∈ w.store.sessions) (id : s.id = old.id)
    (owner : s.owner = old.owner) (token : s.refreshToken = service.supply.token (w.tokens + 1))
    (tokens : w'.tokens = w.tokens + 1)

namespace Effect

variable {service : Service} {w w' : World}

theorem origin (h : Effect service w w') {s : Session} (hs : s ∈ w'.store.sessions) :
    Origin service w w' s := by
  cases h with
  | idle store =>
    rw [store] at hs
    exact .kept hs
  | enrolled u id created unblocked uncrossed unique after =>
    rw [after.store_eq, Store.sessions_addUser] at hs
    exact .kept hs
  | flagged id blocked after =>
    rw [after.store_eq, Store.sessions_setBlocked] at hs
    exact .kept hs
  | opened t id token owner created within issued unique after =>
    rw [after.store_eq] at hs
    rcases List.mem_append.mp hs with hs | hs
    · exact .kept hs
    · obtain rfl := List.mem_singleton.mp hs
      exact .opened id token after.ids_eq after.tokens_eq issued
  | rotated session token expires live within there free after =>
    rw [after.store_eq] at hs
    obtain ⟨mem, -⟩ | ⟨old, mem, -, rfl⟩ := Store.mem_rotate hs
    · exact .kept mem
    · exact .rotated old mem rfl rfl rfl after.tokens_eq
  | ended owner id after =>
    rw [after.store_eq, Store.mem_deleteSession] at hs
    exact .kept hs.1
  | endedAll owner after =>
    rw [after.store_eq, Store.mem_deleteSessions] at hs
    exact .kept hs.1

end Effect

/-! ## What is stored has been drawn -/

/-- Every identifier and every refresh token stored has been drawn. -/
structure Supply.Covers (supply : Supply) (w : World) : Prop where
  ids : ∀ s ∈ w.store.sessions, s.id ∈ supply.idsDrawn w
  tokens : ∀ s ∈ w.store.sessions, s.refreshToken ∈ supply.tokensDrawn w

/-- A refresh token that is drawn next is stored nowhere. -/
theorem Supply.Covers.next_token_notMem {supply : Supply} {w w' : World} (covers : supply.Covers w)
    (fresh : supply.Unrepeated w') (lt : w.tokens < w'.tokens) :
    supply.token (w.tokens + 1) ∉ w.store.refreshTokens := by
  intro held
  obtain ⟨t, mem, same⟩ := Store.mem_refreshTokens.mp held
  exact fresh.next_token_notMem lt (same ▸ covers.tokens t mem)

theorem Effect.covers {service : Service} {w w' : World} (h : Effect service w w')
    (covers : service.supply.Covers w) : service.supply.Covers w' := by
  obtain ⟨-, moreIds, moreTokens, -⟩ := h.le
  constructor
  · intro s hs
    cases h.origin hs with
    | kept mem => exact Supply.idsDrawn_mono moreIds (covers.ids s mem)
    | opened id token ids tokens issued => exact id ▸ Supply.next_id_mem (by omega)
    | rotated old mem id owner token tokens =>
      exact id ▸ Supply.idsDrawn_mono moreIds (covers.ids old mem)
  · intro s hs
    cases h.origin hs with
    | kept mem => exact Supply.tokensDrawn_mono moreTokens (covers.tokens s mem)
    | opened id token ids tokens issued => exact token ▸ Supply.next_token_mem (by omega)
    | rotated old mem id owner token tokens => exact token ▸ Supply.next_token_mem (by omega)

/-! ## What is gone stays gone -/

/-- A refresh token that has been drawn and is no longer stored. -/
structure Supply.Spent (supply : Supply) (t : String) (w : World) : Prop where
  drawn : t ∈ supply.tokensDrawn w
  gone : t ∉ w.store.refreshTokens

/-- An identifier that has been drawn and under which no session is stored. -/
structure Supply.Closed (supply : Supply) (id : Uuid) (w : World) : Prop where
  drawn : id ∈ supply.idsDrawn w
  gone : id ∉ w.store.sessionIds

namespace Effect

variable {service : Service} {w w' : World}

/-- **A token that is spent stays so**: what is stored next is kept or has just been drawn. -/
theorem spent (h : Effect service w w') (fresh : service.supply.Unrepeated w') {t : String}
    (spent : service.supply.Spent t w) : service.supply.Spent t w' := by
  refine ⟨Supply.tokensDrawn_mono h.le.2.2.1 spent.drawn, fun mem => ?_⟩
  obtain ⟨s, hs, rfl⟩ := Store.mem_refreshTokens.mp mem
  cases h.origin hs with
  | kept mem => exact spent.gone (Store.mem_refreshTokens.mpr ⟨s, mem, rfl⟩)
  | opened id token ids tokens issued =>
    exact fresh.next_token_notMem (by omega) (token ▸ spent.drawn)
  | rotated old mem id owner token tokens =>
    exact fresh.next_token_notMem (by omega) (token ▸ spent.drawn)

/-- **A session that is closed stays so**: an identifier is kept, or has just been drawn. -/
theorem closed (h : Effect service w w') (fresh : service.supply.Unrepeated w') {id : Uuid}
    (closed : service.supply.Closed id w) : service.supply.Closed id w' := by
  refine ⟨Supply.idsDrawn_mono h.le.2.1 closed.drawn, fun mem => ?_⟩
  obtain ⟨s, hs, rfl⟩ := Store.mem_sessionIds.mp mem
  cases h.origin hs with
  | kept mem => exact closed.gone (Store.mem_sessionIds.mpr ⟨s, mem, rfl⟩)
  | opened id token ids tokens issued =>
    exact fresh.next_id_notMem (by omega) (id ▸ closed.drawn)
  | rotated old mem id owner token tokens =>
    exact closed.gone (Store.mem_sessionIds.mpr ⟨old, mem, id.symm⟩)

end Effect
end LoginGate
