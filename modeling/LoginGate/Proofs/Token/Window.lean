import LoginGate.Proofs.Token

/-!
# Proofs/Token/Window — when a token is good

A token is too early before the second of its issue, the user's from then on, and expired from the
second of its expiry on; with a lifetime that is over at once or lies in the past it is never good.
The seconds are those of the clock that tokens are checked against, so the window is exact to the
microsecond wherever that clock tells an instant apart from the start of the next second.
-/

namespace LoginGate

namespace Instant

/-- **The clock tells an instant apart from a second.** In the five centuries around 1970 it always
does, and later and earlier it does once the second has begun or as long as 16 microseconds are left
until then. -/
def TellsApart (t : Instant) (n : Int) : Prop :=
  t.natAbs < 2 ^ 34 * 1000000 ∨ n * perSecond ≤ t ∨ t + 16 ≤ n * perSecond

/-- A second that is told apart is shown from its start on, and not before. -/
theorem clockSecond_lt_iff {t : Instant} {n : Int} (date : isDate t = true)
    (apart : TellsApart t n) : clockSecond t < n ↔ second t < n := by
  obtain near | begun | left := apart
  · rw [clockSecond_eq_second date near]
  · have shown : n ≤ clockSecond t := le_clockSecond date begun
    have lies : n ≤ second t := Int.le_ediv_of_mul_le (by decide) begun
    exact iff_of_false (Int.not_lt.mpr shown) (Int.not_lt.mpr lies)
  · have before : t < n * perSecond := (Int.lt_add_of_pos_right t (by decide)).trans_le left
    exact iff_of_true (clockSecond_lt date left) (Int.ediv_lt_of_lt_mul (by decide) before)

/-- A second that is told apart is shown exactly if it has begun. -/
theorem le_clockSecond_iff {t : Instant} {n : Int} (date : isDate t = true)
    (apart : TellsApart t n) : n ≤ clockSecond t ↔ n * perSecond ≤ t := by
  rw [← Int.not_lt, clockSecond_lt_iff date apart, Int.not_lt]
  exact Int.le_ediv_iff_mul_le (by decide)

end Instant

namespace Signer

/-- **The verdict on a token** in a second, given those of its issue and of its expiry. -/
def verdict (user : Uuid) (issued expiry now : Int) : Except Failure Uuid :=
  if now < issued then .error (.denied .invalidToken)
  else if expiry ≤ now then .error (.denied .tokenExpired)
  else .ok user

/-- A token is good exactly inside its window. -/
theorem verdict_eq_ok_iff {user : Uuid} {issued expiry now : Int} :
    verdict user issued expiry now = .ok user ↔ issued ≤ now ∧ now < expiry := by
  unfold verdict
  split_ifs with early late
  · exact iff_of_false nofun fun window => Int.not_lt.mpr window.1 early
  · exact iff_of_false nofun fun window => Int.not_le.mpr window.2 late
  · exact iff_of_true rfl ⟨Int.not_lt.mp early, Int.not_le.mp late⟩

/-- Only the order of the second among the two bounds matters to a verdict. -/
theorem verdict_congr (user : Uuid) {issued expiry now now' : Int}
    (early : now < issued ↔ now' < issued) (late : now < expiry ↔ now' < expiry) :
    verdict user issued expiry now = verdict user issued expiry now' := by
  have late : expiry ≤ now ↔ expiry ≤ now' := by
    rw [← Int.not_lt, ← Int.not_lt, late]
  unfold verdict
  simp only [early, late]

variable {s : Signer} {user : Uuid} {now expiry : Instant} {token : String}

/-- **The claims of a signer are judged by their window alone.** -/
theorem judge_claims_eq_verdict (named : s.issuer ≠ some "") (user : Uuid)
    (issued expiry now : Int) :
    (Claims.judge s.issuer (s.claims user issued expiry) now).mapError .denied =
      verdict user issued expiry now := by
  unfold verdict
  by_cases early : now < issued
  · rw [if_pos early, Claims.judge_claims_of_early user early]
    rfl
  · rw [if_neg early, Claims.judge_claims named user (Int.not_lt.mp early)]
    split_ifs
    · rfl
    · rfl

/-- **What a signer answers** to a token that it has issued: the verdict in the second shown. -/
theorem verify_eq_verdict (named : s.issuer ≠ some "") (issued : s.issue user now = .ok token)
    (within : Instant.plus? now s.lifetime = some expiry) {t : Instant}
    (date : Instant.isDate t = true) : s.verify token t =
      verdict user (Instant.second now) (Instant.second expiry) (Instant.clockSecond t) := by
  obtain ⟨expiry', within', judged⟩ := verify_eq_judge issued
  obtain rfl : expiry' = expiry := Option.some.inj (within'.symm.trans within)
  rw [judged t date, judge_claims_eq_verdict named]

/-- A token that has been issued is verified as its user's until it expires. -/
theorem verify_eq_ok_iff_of_issue (named : s.issuer ≠ some "")
    (issued : s.issue user now = .ok token)
    (within : Instant.plus? now s.lifetime = some expiry) {t : Instant}
    (date : Instant.isDate t = true) (later : now ≤ t) :
    s.verify token t = .ok user ↔ Instant.clockSecond t < Instant.second expiry := by
  have begun : Instant.second now ≤ Instant.clockSecond t := by
    refine Instant.le_clockSecond date (Int.le_trans ?_ later)
    exact Int.ediv_mul_le now (by decide)
  rw [verify_eq_verdict named issued within date, verdict_eq_ok_iff]
  exact and_iff_right begun

/-- The signer that is made of some settings has them. -/
theorem eq_of_make {secret algorithm : String} {issuer : Option String} {lifetime : Int}
    (made : make secret lifetime algorithm issuer = .ok s) :
    s = ⟨secret, lifetime, algorithm, issuer⟩ := by
  unfold make at made
  split at made
  · exact nomatch made
  · exact (Except.ok.inj made).symm

/-- **A token issued is good exactly inside its window**, for every signer with the secret, the
algorithm and the issuer of the one that has issued it. -/
theorem good_within_window {secret algorithm : String} {issuer : Option String}
    {lifetime lifetime' : Int} {s' : Signer}
    (made : make secret lifetime algorithm issuer = .ok s)
    (made' : make secret lifetime' algorithm issuer = .ok s')
    (own : Key.isForeign secret = false) (known : algorithm ∈ Settings.algorithms)
    (named : issuer ≠ some "") (user : Uuid)
    (within : Instant.plus? now lifetime = some expiry) :
    ∃ token, s.issue user now = .ok token ∧ ∀ t, Instant.isDate t = true →
      s'.verify token t =
        verdict user (Instant.second now) (Instant.second expiry) (Instant.clockSecond t) ∧
      (Instant.TellsApart t (Instant.second now) → Instant.TellsApart t (Instant.second expiry) →
        s'.verify token t =
          verdict user (Instant.second now) (Instant.second expiry) (Instant.second t)) := by
  obtain rfl := eq_of_make made
  obtain rfl := eq_of_make made'
  have canSign : CanSign ⟨secret, lifetime, algorithm, issuer⟩ := (canSign_iff known).mpr own
  obtain ⟨token, issued⟩ := canSign.issue within user
  refine ⟨token, issued, fun t date => ?_⟩
  -- a signer does not look at its own lifetime when it verifies
  have shown : Signer.verify ⟨secret, lifetime', algorithm, issuer⟩ token t = _ :=
    verify_eq_verdict (s := ⟨secret, lifetime, algorithm, issuer⟩) named issued within date
  refine ⟨shown, fun fromIssue fromExpiry => shown.trans ?_⟩
  exact verdict_congr user (Instant.clockSecond_lt_iff date fromIssue)
    (Instant.clockSecond_lt_iff date fromExpiry)

/-! ## Two tokens at the ends of their windows -/

theorem own_dev : Key.isForeign "dev" = false := by decide +kernel

/-- A lifetime of a second and a half from the middle of a second on leads into the next but one. -/
theorem good_for_two_seconds : ∃ s token,
    make "dev" 1500000 "HS512" (some "Größe") = .ok s ∧
    s.issue (Uuid.ofNat 1) 1700000000700000 = .ok token ∧
    s.verify token 1699999999999999 = .error (.denied .invalidToken) ∧
    s.verify token 1700000000000000 = .ok (Uuid.ofNat 1) ∧
    s.verify token 1700000001999999 = .ok (Uuid.ofNat 1) ∧
    s.verify token 1700000002000000 = .error (.denied .tokenExpired) := by
  let s : Signer := ⟨"dev", 1500000, "HS512", some "Größe"⟩
  have made : make "dev" 1500000 "HS512" (some "Größe") = .ok s := rfl
  have within : Instant.plus? 1700000000700000 1500000 = some 1700000002200000 := rfl
  obtain ⟨token, issued, window⟩ :=
    good_within_window made made own_dev (by decide) (by decide) (Uuid.ofNat 1) within
  have near {t : Int} (ht : t.natAbs < 2 ^ 34 * 1000000) (n : Int) : Instant.TellsApart t n :=
    .inl ht
  refine ⟨s, token, made, issued, ?_, ?_, ?_, ?_⟩
  · exact (window _ (by decide)).2 (near (by decide) _) (near (by decide) _)
  · exact (window _ (by decide)).2 (near (by decide) _) (near (by decide) _)
  · exact (window _ (by decide)).2 (near (by decide) _) (near (by decide) _)
  · exact (window _ (by decide)).2 (near (by decide) _) (near (by decide) _)

/-- **The clock of tokens is early in the year 9000**: ten microseconds are left until the token
expires, and it is refused as expired. -/
theorem expired_beforehand : ∃ s token,
    make "dev" 900000000 "HS256" none = .ok s ∧ Key.isForeign "dev" = false ∧
    Instant.plus? 221845392000000000 900000000 = some 221845392900000000 ∧
    s.issue (Uuid.ofNat 1) 221845392000000000 = .ok token ∧
    Instant.second 221845392000000000 * Instant.perSecond ≤ 221845392899999990 ∧
    221845392899999990 < Instant.second 221845392900000000 * Instant.perSecond ∧
    s.verify token 221845392899999990 = .error (.denied .tokenExpired) := by
  let s : Signer := ⟨"dev", 900000000, "HS256", none⟩
  have canSign : s.CanSign := (canSign_iff (by decide)).mpr own_dev
  have within : Instant.plus? 221845392000000000 900000000 = some 221845392900000000 := rfl
  obtain ⟨token, issued⟩ := canSign.issue within (Uuid.ofNat 1)
  refine ⟨s, token, rfl, own_dev, within, issued, by decide, by decide, ?_⟩
  have shown : Instant.clockSecond 221845392899999990 = 221845392900 := by decide +kernel
  rw [verify_eq_verdict (by decide) issued rfl (by decide), shown]
  rfl

end Signer
end LoginGate
