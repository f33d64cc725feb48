import LoginGate.Proofs.Run
import LoginGate.Proofs.Token

/-!
# Proofs/Signing — where a session is stored, tokens can be signed

Whoever holds a stored session has been issued an access token at least once, so where a session is
stored the secret is fit to sign with; what can still be missing is a date for a token to expire at.
-/

namespace LoginGate

/-- Where a session is stored, the signer can sign. -/
theorem Effect.canSign {service : Service} {w w' : World} (h : Effect service w w')
    (canSign : ∀ s ∈ w.store.sessions, service.signer.CanSign) :
    ∀ s ∈ w'.store.sessions, service.signer.CanSign := by
  intro s hs
  cases h.origin hs with
  | kept mem => exact canSign s mem
  | opened id token ids tokens issued =>
    obtain ⟨accessToken, issued⟩ := issued
    exact Signer.canSign_of_issue issued
  | rotated old mem => exact canSign old mem

namespace Run

theorem Reachable.canSign {service : Service} {σ : State} (h : Reachable service σ) :
    ∀ s ∈ σ.sessions, service.signer.CanSign := by
  obtain ⟨now, threshold, events, rfl⟩ := h
  refine run_induct (P := fun τ => ∀ s ∈ τ.sessions, service.signer.CanSign) (fun τ e h => ?_)
    (fun s hs => absurd hs List.not_mem_nil) events
  exact step_induct (P := fun w => ∀ s ∈ w.store.sessions, service.signer.CanSign) e
    (fun effect => effect.canSign h) fun _ => h

end Run

end LoginGate
