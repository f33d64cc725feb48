import LoginGate.Proofs.Except
import LoginGate.Service.Basic

/-!
# Proofs/Setup — the service made for a configuration

A service is made if its lifetimes are spans that can be reckoned with, its secret is not empty and
the decoy can be hashed. It signs as the configuration says, and its tokens and sessions last for as
long as the configuration says.
-/

namespace LoginGate.Service

variable {config : Config} {hashMethod decoyPassword : String} {supply : Supply} {service : Service}

/-- **A service that does as a configuration says.** -/
structure MadeFor (config : Config) (service : Service) : Prop where
  secret_eq : service.signer.secret = config.tokens.secret
  algorithm_eq : service.signer.algorithm = config.tokens.algorithm
  issuer_eq : service.signer.issuer = config.tokens.issuer
  lifetime_eq : service.signer.lifetime = config.tokens.accessTtlSeconds * Instant.perSecond
  sessionSpan_eq : service.sessionSpan = config.tokens.sessionTtlDays * Instant.perDay

theorem eq_of_spanOf {microseconds span : Int} (h : spanOf microseconds = .ok span) :
    span = microseconds := by
  unfold spanOf at h
  split at h
  · exact (Except.ok.inj h).symm
  · exact nomatch h

/-- The signer of some settings has these settings. -/
theorem eq_of_signerOf {t : Settings.Tokens} {signer : Signer} (h : signerOf t = .ok signer) :
    signer = ⟨t.secret, t.accessTtlSeconds * Instant.perSecond, t.algorithm, t.issuer⟩ := by
  obtain ⟨lifetime, within, made⟩ := bind_eq_ok.mp h
  obtain rfl := eq_of_spanOf within
  unfold Signer.make at made
  split at made
  · exact nomatch made
  · exact (Except.ok.inj made).symm

/-- **A service is made** if there is a signer for its tokens, a span for its sessions and a hash of
the decoy, and it consists of these. -/
theorem make_eq_ok_iff : make config hashMethod decoyPassword supply = .ok service ↔
    ∃ signer sessionSpan decoyHash, signerOf config.tokens = .ok signer ∧
      spanOf (config.tokens.sessionTtlDays * Instant.perDay) = .ok sessionSpan ∧
      Password.hash hashMethod decoyPassword (supply.salt 1) = .ok decoyHash ∧
      service = { signer, hashMethod, decoyHash, sessionSpan, supply } := by
  simp only [make, bind_eq_ok, mapError_eq_ok, pure, Except.pure, Except.ok.injEq,
    exists_and_left, eq_comm (b := service)]

/-- **A service made for a configuration does as it says.** -/
theorem madeFor_of_make (h : make config hashMethod decoyPassword supply = .ok service) :
    MadeFor config service := by
  obtain ⟨signer, sessionSpan, decoyHash, signing, within, -, rfl⟩ := make_eq_ok_iff.mp h
  obtain rfl := eq_of_signerOf signing
  exact ⟨rfl, rfl, rfl, rfl, eq_of_spanOf within⟩

end LoginGate.Service
