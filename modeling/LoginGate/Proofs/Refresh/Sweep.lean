import LoginGate.Proofs.Run

/-!
# Proofs/Refresh/Sweep — which sessions a refresh deletes

A refresh that has read an expired session deletes it. Whether the session is expired is decided on
the row that was read, but the deletion goes by its identifier and owner, so it takes whatever row
is stored under them by then: after a rotation in between, a live one.
-/

namespace LoginGate

namespace Service

variable {w : World} {r : Session}

/-- **What the second half of a refresh deletes**: the session stored under the identifier and the
owner of the one that was read, if that one is expired. -/
theorem removed_by_complete_iff (service : Service) (session : Session) (token : String)
    (keyed : w.store.Keyed) (hr : r ∈ w.store.sessions) :
    r.id ∉ (service.complete session token w).2.store.sessionIds ↔
      Instant.isDate w.now = true ∧ w.faultIn ≠ 1 ∧ session.expires ≤ w.now ∧
        r.id = session.id ∧ r.owner = session.owner := by
  have stays {store : Store} (same : store.sessionIds = w.store.sessionIds) :
      ¬ r.id ∉ store.sessionIds := by
    rw [same]
    exact not_not_intro (Store.mem_sessionIds.mpr ⟨r, hr, rfl⟩)
  have done := completion service session token w
  generalize service.complete session token w = p at done ⊢
  cases done with
  | undated date after =>
    refine iff_of_false (stays (congrArg _ after.store_eq)) fun h => ?_
    exact nomatch date.symm.trans h.1
  | unswept date expired fault after =>
    exact iff_of_false (stays (congrArg _ after.store_eq)) fun h => h.2.1 fault
  | swept date expired answers after =>
    rw [after.store_eq]
    constructor
    · intro gone
      have deleted : ¬ ¬ (r.id = session.id ∧ r.owner = session.owner) := fun other =>
        gone (Store.mem_sessionIds.mpr ⟨r, Store.mem_deleteSession.mpr ⟨hr, other⟩, rfl⟩)
      exact ⟨date, answers, expired, not_not.mp deleted⟩
    · rintro ⟨-, -, -, id, owner⟩ mem
      obtain ⟨s, hs, same⟩ := Store.mem_sessionIds.mp mem
      obtain ⟨hs, other⟩ := Store.mem_deleteSession.mp hs
      obtain rfl := keyed.eq_of_id hs hr same
      exact other ⟨id, owner⟩
  | overlong _ live _ after | unrotated live _ _ after | lost live _ _ _ after =>
    exact iff_of_false (stays (congrArg _ after.store_eq)) fun h => Int.not_le.mpr live h.2.2.1
  | unissued live _ _ _ _ _ after | renewed live _ _ _ _ _ after =>
    refine iff_of_false (stays ?_) fun h => Int.not_le.mpr live h.2.2.1
    rw [after.store_eq, Store.sessionIds_rotate]

end Service

namespace Run

/-- **When a refresh deletes a live session**: if the row that it read is expired, while the one
that is stored under the same identifier and owner by the time of its second half is not. A refresh
whose row is still stored as it was read deletes expired sessions only. -/
theorem sweep_of_live_iff {service : Service} {σ : State} (reachable : Reachable service σ)
    {index : Nat} {p : Pending} (under_way : σ.pending[index]? = some p) {r : Session}
    (stored : r ∈ σ.sessions) :
    (r.id ∉ (step service σ (.complete index)).2.sessionIds ∧ σ.world.now < r.expires ↔
      Instant.isDate σ.world.now = true ∧ σ.world.faultIn ≠ 1 ∧
        p.session.expires ≤ σ.world.now ∧ σ.world.now < r.expires ∧
        r.id = p.session.id ∧ r.owner = p.session.owner) ∧
      (p.session ∈ σ.sessions → r.id ∉ (step service σ (.complete index)).2.sessionIds →
        r.expires ≤ σ.world.now) := by
  have keyed := reachable.keyed
  have removed := Service.removed_by_complete_iff service p.session p.token keyed stored
  rw [step_complete under_way]
  constructor
  · change r.id ∉ (service.complete p.session p.token σ.world).2.store.sessionIds ∧ _ ↔ _
    rw [removed]
    constructor
    · rintro ⟨⟨date, answers, expired, id, owner⟩, live⟩
      exact ⟨date, answers, expired, live, id, owner⟩
    · rintro ⟨date, answers, expired, live, id, owner⟩
      exact ⟨⟨date, answers, expired, id, owner⟩, live⟩
  · intro current gone
    obtain ⟨-, -, expired, id, -⟩ := removed.mp gone
    rw [keyed.eq_of_id stored current id]
    exact expired

/-- A refresh that looks the first session up, and another one that rotates it at the last moment,
just before the first one goes on. -/
def overtaken : State := run (sample 900) (start 0 .info)
  (opening ++ [.lookUp "r", .advance (15 * 86400000000 - 1), .lookUp "r", .complete 1, .advance 1])

/-- The first session after the rotation. -/
def overtakenSession : Session :=
  firstSession.rotated "rr" (15 * Instant.perDay - 1) (30 * Instant.perDay - 1)

set_option maxRecDepth 100000 in
/-- The session is rotated, and is deleted by the refresh that lost the race. -/
theorem overtaken_loses : overtakenSession ∈ overtaken.sessions ∧
    overtaken.world.now < overtakenSession.expires ∧
    overtakenSession.id ∉ (step (sample 900) overtaken (.complete 0)).2.sessionIds ∧
    overtaken.pending[0]?.isSome = true := by
  decide +kernel

/-- What the refresh that lost the race has read is expired and no longer stored. -/
theorem overtaken_read_expired : Reachable (sample 900) overtaken ∧
    ∃ p, overtaken.pending[0]? = some p ∧ p.session.expires ≤ overtaken.world.now ∧
      p.session ∉ overtaken.sessions := by
  obtain ⟨stored, live, gone, under_way⟩ := overtaken_loses
  have reachable : Reachable (sample 900) overtaken := reachable_run ..
  obtain ⟨p, at_index⟩ := Option.isSome_iff_exists.mp under_way
  obtain ⟨cause, current_only⟩ := sweep_of_live_iff reachable at_index stored
  refine ⟨reachable, p, at_index, (cause.mp ⟨gone, live⟩).2.2.1, fun current => ?_⟩
  exact Int.not_le.mpr live (current_only current gone)

/-- A refresh can delete a live session, the one that has overtaken it. -/
theorem overtaken_deletes_live :
    ¬ ∀ index, ∀ r ∈ overtaken.sessions,
      r.id ∉ (step (sample 900) overtaken (.complete index)).2.sessionIds →
        r.expires ≤ overtaken.world.now := by
  obtain ⟨stored, live, gone, -⟩ := overtaken_loses
  exact fun always => Int.not_le.mpr live (always 0 overtakenSession stored gone)

end Run
end LoginGate
