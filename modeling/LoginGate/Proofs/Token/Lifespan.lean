import LoginGate.Proofs.Token.Authentic

/-!
# Proofs/Token/Lifespan — a token over time

Whatever text is presented, time divides into at most three parts: it is denied at first, then it is
one user's, and in the end it is expired. The bounds are the seconds that its claims name, in the
reading of the clock that tokens are checked against; as that clock never goes back, nothing that is
over comes again.
-/

namespace LoginGate

namespace Claims

variable {issuer : Option String} {members : Members} {user : Uuid} {now later : Int}

/-! ## The second from which on claims hold -/

/-- A claim as a second, if it is made and reads as one. -/
def second? (members : Members) (name : String) : Option Int :=
  (Json.lookup? name members).bind wholeNumber?

/-- **The second from which on claims hold**: the later of their issue and their begin, as far as
they name them. -/
def start? (members : Members) : Option Int := max (second? members "iat") (second? members "nbf")

theorem Reached.le {name : String} (h : Reached members name now) :
    ∀ n ∈ second? members name, n ≤ now := by
  intro n made
  obtain ⟨value, given, read⟩ := Option.bind_eq_some_iff.mp made
  obtain ⟨n', read', le⟩ := h value given
  obtain rfl := Option.some.inj (read'.symm.trans read)
  exact le

/-- A claim that has been reached once is reached whenever its second has come. -/
theorem Reached.of_le {name : String} (h : Reached members name now)
    (le : ∀ n ∈ second? members name, n ≤ later) : Reached members name later := by
  intro value given
  obtain ⟨n, read, -⟩ := h value given
  exact ⟨n, read, le n (Option.bind_eq_some_iff.mpr ⟨value, given, read⟩)⟩

theorem Reached.mono {name : String} (h : Reached members name now) (le : now ≤ later) :
    Reached members name later :=
  h.of_le fun n made => (h.le n made).trans le

/-- A second has come to the later of two exactly if it has come to both. -/
theorem forall_mem_max_iff {a b : Option Int} :
    (∀ n ∈ max a b, n ≤ now) ↔ (∀ n ∈ a, n ≤ now) ∧ ∀ n ∈ b, n ≤ now := by
  cases a <;> cases b <;> simp

/-- **Claims that hold once hold from their start on until their expiry**, for the same user. -/
theorem Hold.iff {user' : Uuid} {expiry : Int} (h : Hold issuer members user now)
    (expires : expiry? members = some expiry) : Hold issuer members user' later ↔
      user' = user ∧ (∀ n ∈ start? members, n ≤ later) ∧ later < expiry := by
  rw [start?, forall_mem_max_iff]
  constructor
  · intro h'
    obtain ⟨expiry', expires', unexpired⟩ := h'.unexpired
    obtain rfl := Option.some.inj (expires'.symm.trans expires)
    refine ⟨?_, ⟨h'.issued.le, h'.begun.le⟩, unexpired⟩
    have named := subject?_eq_some_iff.mpr h.subject
    exact Option.some.inj ((subject?_eq_some_iff.mpr h'.subject).symm.trans named)
  · rintro ⟨rfl, ⟨issued, begun⟩, unexpired⟩
    exact { h with
      unexpired := ⟨expiry, expires, unexpired⟩
      issued := h.issued.of_le issued
      begun := h.begun.of_le begun }

end Claims

namespace Signer

variable {s : Signer} {token : String} {t t' : Instant} {user : Uuid}

/-! ## Nothing that is over comes again -/

/-- What is accepted once is accepted from its start on until its expiry, as the same user's. -/
theorem verify_iff_of_ok (date : Instant.isDate t = true) (accepted : s.verify token t = .ok user) :
    ∃ claims expiry, s.open? token = .ok (some claims) ∧ Claims.expiry? claims = some expiry ∧
      ∀ t', Instant.isDate t' = true → ∀ user', s.verify token t' = .ok user' ↔ user' = user ∧
        (∀ n ∈ Claims.start? claims, n ≤ Instant.clockSecond t') ∧
        Instant.clockSecond t' < expiry := by
  obtain ⟨claims, opened, hold⟩ := (verify_eq_ok_iff date).mp accepted
  obtain ⟨expiry, expires, -⟩ := hold.unexpired
  refine ⟨claims, expiry, opened, expires, fun t' date' user' => ?_⟩
  rw [verify_eq_ok_iff date', opened]
  simp only [Except.ok.injEq, Option.some.injEq, exists_eq_left', hold.iff expires]

/-- What has been accepted is accepted later on, or has expired. -/
theorem ok_or_expired_of_ok (date : Instant.isDate t = true) (date' : Instant.isDate t' = true)
    (le : t ≤ t') (accepted : s.verify token t = .ok user) :
    s.verify token t' = .ok user ∨ s.verify token t' = .error (.denied .tokenExpired) := by
  obtain ⟨claims, opened, hold⟩ := (verify_eq_ok_iff date).mp accepted
  obtain ⟨expiry, expires, -⟩ := hold.unexpired
  have shown := Instant.clockSecond_mono date date' le
  by_cases past : expiry ≤ Instant.clockSecond t'
  · exact .inr ((verify_eq_expired_iff date').mpr ⟨claims, opened, hold.complete,
      hold.issued.mono shown, hold.begun.mono shown, expiry, expires, past⟩)
  · refine .inl ((verify_eq_ok_iff date').mpr ⟨claims, opened, { hold with
      unexpired := ⟨expiry, expires, Int.not_le.mp past⟩
      issued := hold.issued.mono shown
      begun := hold.begun.mono shown }⟩)

/-- What has expired stays so. -/
theorem expired_of_expired (date : Instant.isDate t = true) (date' : Instant.isDate t' = true)
    (le : t ≤ t') (expired : s.verify token t = .error (.denied .tokenExpired)) :
    s.verify token t' = .error (.denied .tokenExpired) := by
  obtain ⟨claims, opened, complete, issued, begun, expiry, expires, past⟩ :=
    (verify_eq_expired_iff date).mp expired
  have shown := Instant.clockSecond_mono date date' le
  exact (verify_eq_expired_iff date').mpr ⟨claims, opened, complete, issued.mono shown,
    begun.mono shown, expiry, expires, past.trans shown⟩

/-! ## The lifespan of a token -/

/-- **The lifespan of a token** for a signer. -/
structure Lifespan (s : Signer) (token : String) : Prop where
  /-- It is never accepted, or it is authentic and one user's, and it is accepted exactly in the
  seconds that are shown from its start on, if it has one, until its expiry. Where the clock tells
  an instant apart from the two, they are compared with the instant itself. -/
  window : (∀ t user, Instant.isDate t = true → s.verify token t ≠ .ok user) ∨
    ∃ g claims user expiry, s.Authentic token g claims ∧ Claims.expiry? claims = some expiry ∧
      ∀ t, Instant.isDate t = true → ∀ user',
        (s.verify token t = .ok user' ↔ user' = user ∧
          (∀ n ∈ Claims.start? claims, n ≤ Instant.clockSecond t) ∧
          Instant.clockSecond t < expiry) ∧
        ((∀ n ∈ Claims.start? claims, Instant.TellsApart t n) → Instant.TellsApart t expiry →
          (s.verify token t = .ok user' ↔ user' = user ∧
            (∀ n ∈ Claims.start? claims, n * Instant.perSecond ≤ t) ∧
            t < expiry * Instant.perSecond))
  /-- Between two instants at which it is accepted there is none at which it is not. -/
  unbroken : ∀ t₁ t₂ t₃ user user', Instant.isDate t₁ = true → Instant.isDate t₃ = true →
    t₁ ≤ t₂ → t₂ ≤ t₃ → s.verify token t₁ = .ok user → s.verify token t₃ = .ok user' →
      s.verify token t₂ = .ok user
  /-- Once it has been accepted it is accepted later on, or has expired. -/
  ages : ∀ t t' user, Instant.isDate t = true → Instant.isDate t' = true → t ≤ t' →
    s.verify token t = .ok user →
      s.verify token t' = .ok user ∨ s.verify token t' = .error (.denied .tokenExpired)
  /-- Once it has expired it has expired for good. -/
  ends : ∀ t t', Instant.isDate t = true → Instant.isDate t' = true → t ≤ t' →
    s.verify token t = .error (.denied .tokenExpired) →
      s.verify token t' = .error (.denied .tokenExpired)

/-- **Every text has a lifespan**, for every signer that may use its secret. -/
theorem lifespan (may : s.MaySign) (token : String) : s.Lifespan token where
  window := by
    by_cases ever : ∃ t user, Instant.isDate t = true ∧ s.verify token t = .ok user
    · obtain ⟨t, user, date, accepted⟩ := ever
      obtain ⟨claims, expiry, opened, expires, window⟩ := verify_iff_of_ok date accepted
      obtain ⟨g, authentic⟩ := (open?_eq_some_iff may).mp opened
      refine .inr ⟨g, claims, user, expiry, authentic, expires, fun t' date' user' => ?_⟩
      refine ⟨window t' date' user', fun fromStart fromExpiry => ?_⟩
      rw [window t' date' user', ← Int.not_le, Instant.le_clockSecond_iff date' fromExpiry,
        Int.not_le]
      refine and_congr_right fun _ => and_congr_left fun _ => ?_
      exact forall₂_congr fun n given => Instant.le_clockSecond_iff date' (fromStart n given)
    · exact .inl fun t user date accepted => ever ⟨t, user, date, accepted⟩
  unbroken := by
    intro t₁ t₂ t₃ user user' date₁ date₃ le le' first last
    have date₂ := Instant.isDate_of_between date₁ date₃ le le'
    obtain good | expired := ok_or_expired_of_ok date₁ date₂ le first
    · exact good
    · exact nomatch last.symm.trans (expired_of_expired date₂ date₃ le' expired)
  ages := fun _ _ _ date date' le accepted => ok_or_expired_of_ok date date' le accepted
  ends := fun _ _ date date' le expired => expired_of_expired date date' le expired

/-- A token of 15 minutes has been accepted when it is presented for the last time, and has expired
from then on. -/
theorem lifespan_over : ∃ (s : Signer) (token : String), s.MaySign ∧
    s.issue (Uuid.ofNat 1) 0 = .ok token ∧ s.Lifespan token ∧
    s.verify token 899999999 = .ok (Uuid.ofNat 1) ∧
    ∀ t : Int, Instant.isDate t = true → 900000000 ≤ t →
      s.verify token t = .error (.denied .tokenExpired) := by
  let s : Signer := ⟨"dev", 900000000, "HS256", some "Größe"⟩
  have canSign : s.CanSign := (canSign_iff (by decide)).mpr own_dev
  have within : Instant.plus? 0 900000000 = some 900000000 := rfl
  obtain ⟨token, issued⟩ := canSign.issue within (Uuid.ofNat 1)
  have span : s.Lifespan token := lifespan canSign.maySign token
  have last : Instant.clockSecond 899999999 = 899 := by decide +kernel
  have ended : Instant.clockSecond 900000000 = 900 := by decide +kernel
  refine ⟨s, token, canSign.maySign, issued, span, ?_, fun t date le => ?_⟩
  · rw [verify_eq_verdict (by decide) issued within (by decide), last]
    rfl
  · refine span.ends 900000000 t (by decide) date le ?_
    rw [verify_eq_verdict (by decide) issued within (by decide), ended]
    rfl

/-- **The window of a token of the year 9000 begins inside a second**: it is accepted ten
microseconds before the second of its issue, and not a millisecond before. -/
theorem accepted_within_a_second : ∃ (s : Signer) (token : String), s.MaySign ∧
    s.issue (Uuid.ofNat 1) 221845392900000000 = .ok token ∧
    ¬ ∃ (start : Option Int) (expiry : Int), ∀ t, Instant.isDate t = true →
      ((∃ user, s.verify token t = .ok user) ↔
        (∀ n ∈ start, n * Instant.perSecond ≤ t) ∧ t < expiry * Instant.perSecond) := by
  let s : Signer := ⟨"dev", 900000000, "HS256", none⟩
  have canSign : s.CanSign := (canSign_iff (by decide)).mpr own_dev
  have within : Instant.plus? 221845392900000000 900000000 = some 221845393800000000 := rfl
  obtain ⟨token, issued⟩ := canSign.issue within (Uuid.ofNat 1)
  have early : Instant.clockSecond 221845392899000000 = 221845392899 := by decide +kernel
  have shown : Instant.clockSecond 221845392899999990 = 221845392900 := by decide +kernel
  have denied : s.verify token 221845392899000000 = .error (.denied .invalidToken) := by
    rw [verify_eq_verdict (by decide) issued within (by decide), early]
    rfl
  have accepted : s.verify token 221845392899999990 = .ok (Uuid.ofNat 1) := by
    rw [verify_eq_verdict (by decide) issued within (by decide), shown]
    rfl
  refine ⟨s, token, canSign.maySign, issued, ?_⟩
  rintro ⟨start, expiry, window⟩
  obtain ⟨begun, unexpired⟩ := (window _ (by decide)).mp ⟨_, accepted⟩
  -- a whole second that has begun at the later of the two instants has begun at the earlier
  have begun' : ∀ n ∈ start, n * Instant.perSecond ≤ 221845392899000000 := by
    intro n given
    have begun := begun n given
    simp only [Instant.perSecond] at begun ⊢
    omega
  have unexpired' : 221845392899000000 < expiry * Instant.perSecond :=
    lt_trans (by decide) unexpired
  obtain ⟨user, taken⟩ := (window _ (by decide)).mpr ⟨begun', unexpired'⟩
  exact nomatch denied.symm.trans taken

end Signer
end LoginGate
