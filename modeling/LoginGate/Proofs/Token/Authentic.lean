import LoginGate.Proofs.Token.Window

/-!
# Proofs/Token/Authentic — what has been checked about a token that is accepted

Whatever text is presented, it is accepted exactly if it is authentic and its claims hold in the
second shown. It is authentic (`Authentic`) if its three segments are base64url, its header names
the signer's algorithm, and its signature is the keyed digest of all that stands before the last
dot; the claims hold (`Claims.Hold`) if the seconds that they name have come and not gone by, and
they name the issuer and a user. Every other text is denied, and as expired only if it is authentic.
-/

namespace LoginGate

/-! ## Claims that hold -/

namespace Claims

variable {issuer : Option String} {members : Members} {user : Uuid} {now : Int}

/-- A claim that is a second that has come, if it is made at all. -/
def Reached (members : Members) (name : String) (now : Int) : Prop :=
  ∀ value, Json.lookup? name members = some value → ∃ n, wholeNumber? value = some n ∧ n ≤ now

theorem hasCome_iff {name : String} :
    hasCome members name now = true ↔ Reached members name now := by
  unfold hasCome Reached
  cases Json.lookup? name members with
  | none => simp
  | some value => cases read : wholeNumber? value <;> simp [read]

theorem issuerFits_iff : issuerFits issuer members = true ↔
    ∀ expected, issuer = some expected → Json.lookup? "iss" members = some (.text expected) := by
  unfold issuerFits
  cases issuer with
  | none => simp
  | some expected =>
    simp only [Option.some.injEq, forall_eq']
    split
    · next named => simp [named]
    · next other => exact iff_of_false Bool.noConfusion fun named => other expected named

theorem isForAnyone_iff : isForAnyone members = true ↔
    ∀ value, Json.lookup? "aud" members = some value → value.isTruthy = false := by
  unfold isForAnyone
  cases Json.lookup? "aud" members <;> simp

theorem subject?_eq_some_iff : subject? members = some user ↔
    ∃ text, Json.lookup? "sub" members = some (.text text) ∧ text ≠ "" ∧
      Uuid.ofLoose? text.toList = some user := by
  unfold subject?
  split
  · next text named =>
    by_cases empty : text = "" <;> simp [named, empty]
  · next other =>
    refine iff_of_false (fun none => nomatch none) ?_
    rintro ⟨text, named, -⟩
    exact other text named

/-- **Claims that hold** for a user in a second: they have an expiry that has not come, an issue and
a begin that have, if they name them, the issuer that is expected, if one is, no audience, and a
subject that reads as the user. -/
structure Hold (issuer : Option String) (members : Members) (user : Uuid) (now : Int) : Prop where
  unexpired : ∃ expiry, expiry? members = some expiry ∧ now < expiry
  issued : Reached members "iat" now
  begun : Reached members "nbf" now
  issuer : ∀ expected, issuer = some expected →
    Json.lookup? "iss" members = some (.text expected)
  audience : ∀ value, Json.lookup? "aud" members = some value → value.isTruthy = false
  subject : ∃ text, Json.lookup? "sub" members = some (.text text) ∧ text ≠ "" ∧
    Uuid.ofLoose? text.toList = some user
  identifier : isTextIfGiven members "jti" = true

/-- A subject that is a text passes for one. -/
theorem isTextIfGiven_of_subject (h : subject? members = some user) :
    isTextIfGiven members "sub" = true := by
  obtain ⟨text, named, -⟩ := subject?_eq_some_iff.mp h
  rw [isTextIfGiven, named]

/-- What is accepted has passed every rule. -/
theorem hold_of_judge (accepted : judge issuer members now = .ok user) :
    Hold issuer members user now := by
  unfold judge at accepted
  split at accepted
  · exact nomatch accepted
  next come =>
  split at accepted
  · exact nomatch accepted
  next expiry expires =>
  split at accepted
  · exact nomatch accepted
  next unexpired =>
  split at accepted
  · exact nomatch accepted
  next fit =>
  split at accepted
  next u subject =>
    obtain rfl := Except.ok.inj accepted
    simp only [Bool.not_eq_true', Bool.not_eq_false, Bool.and_eq_true] at come fit
    obtain ⟨⟨⟨named, anyone⟩, -⟩, identifier⟩ := fit
    exact ⟨⟨expiry, expires, Int.not_le.mp unexpired⟩, hasCome_iff.mp come.1,
      hasCome_iff.mp come.2, issuerFits_iff.mp named, isForAnyone_iff.mp anyone,
      subject?_eq_some_iff.mp subject, identifier⟩
  · exact nomatch accepted

/-- No rule stands in the way of claims that hold. -/
theorem Hold.judge_eq (h : Hold issuer members user now) : judge issuer members now = .ok user := by
  obtain ⟨expiry, expires, unexpired⟩ := h.unexpired
  have subject := subject?_eq_some_iff.mpr h.subject
  simp [judge, hasCome_iff.mpr h.issued, hasCome_iff.mpr h.begun, expires,
    Int.not_le.mpr unexpired, issuerFits_iff.mpr h.issuer, isForAnyone_iff.mpr h.audience,
    isTextIfGiven_of_subject subject, h.identifier, subject]

/-- **Claims are accepted exactly if they hold.** -/
theorem judge_eq_ok_iff : judge issuer members now = .ok user ↔ Hold issuer members user now :=
  ⟨hold_of_judge, Hold.judge_eq⟩

/-- **Claims are expired exactly if their expiry has come**, and their issue and begin as well. -/
theorem judge_eq_expired_iff (issuer : Option String) :
    judge issuer members now = .error .tokenExpired ↔
      Reached members "iat" now ∧ Reached members "nbf" now ∧
        ∃ expiry, expiry? members = some expiry ∧ expiry ≤ now := by
  rw [← hasCome_iff, ← hasCome_iff]
  unfold judge
  by_cases come : (hasCome members "iat" now && hasCome members "nbf" now) = true
  · have both := Bool.and_eq_true_iff.mp come
    cases expires : expiry? members with
    | none => simp [come]
    | some expiry =>
      by_cases past : expiry ≤ now
      · simp [both, past]
      · simp only [come, past, Bool.not_true, Bool.false_eq_true, if_false, Option.some.injEq,
          exists_eq_left', and_false, iff_false]
        split
        · rintro ⟨⟩
        · split <;> rintro ⟨⟩
  · simp only [come, Bool.not_false, if_true, reduceCtorEq, Except.error.injEq, false_iff, not_and]
    intro issued begun
    exact absurd (Bool.and_eq_true_iff.mpr ⟨issued, begun⟩) come

/-- What is not accepted is invalid or expired. -/
theorem judge_eq_error {denial : Denial} (h : judge issuer members now = .error denial) :
    denial = .invalidToken ∨ denial = .tokenExpired := by
  unfold judge at h
  split at h
  · exact .inl (Except.error.inj h).symm
  split at h
  · exact .inl (Except.error.inj h).symm
  split at h
  · exact .inr (Except.error.inj h).symm
  split at h
  · exact .inl (Except.error.inj h).symm
  split at h
  · exact nomatch h
  · exact .inl (Except.error.inj h).symm

/-- Claims that hold are complete. -/
theorem Hold.complete (h : Hold issuer members user now) : isComplete members = true := by
  obtain ⟨expiry, expires, -⟩ := h.unexpired
  obtain ⟨text, named, -⟩ := h.subject
  obtain ⟨value, given, read⟩ := Option.bind_eq_some_iff.mp expires
  have known : isGiven members "exp" = true := by
    rw [isGiven, given]
    cases value with
    | null => cases read
    | _ => rfl
  rw [isComplete, known, isGiven, named, Bool.true_and]

end Claims

/-! ## Tokens that are authentic -/

namespace Signer

variable {s : Signer} {token : String} {now : Instant}

/-- **A signer that may use its secret**: it signs with a key, and its secret is no key of another
kind. With an algorithm that is not known the secret is not looked at. -/
def MaySign (s : Signer) : Prop := ∀ signed, s.signature signed ≠ .error .unusableKey

theorem CanSign.maySign (h : s.CanSign) : s.MaySign := by
  intro signed refused
  obtain ⟨bytes, done⟩ := h signed
  exact nomatch done.symm.trans refused

/-- There are two reasons not to sign. -/
theorem signature_eq_error {signed : List Char} {e : SignerError}
    (h : s.signature signed = .error e) : e = .unusableKey ∨ e = .unknownAlgorithm := by
  unfold signature at h
  split at h
  · exact .inl (Except.error.inj h).symm
  split at h
  · exact .inr (Except.error.inj h).symm
  split at h
  · exact .inl (Except.error.inj h).symm
  · exact nomatch h

/-- The signature that a signer makes, if it makes one. -/
theorem signature_eq_ok_iff (may : s.MaySign) {signed : List Char} {bytes : List UInt8} :
    s.signature signed = .ok bytes ↔ ∃ hash, digest? s.algorithm = some hash ∧
      bytes = hmac hash (Bytes.ofText s.secret) (Bytes.utf8 signed) := by
  have usable := may signed
  unfold signature at usable ⊢
  split at usable
  · exact absurd rfl usable
  next signs =>
  rw [if_neg signs]
  cases known : digest? s.algorithm with
  | none => simp
  | some hash =>
    simp only [known] at usable ⊢
    split at usable
    · exact absurd rfl usable
    next own => simp [own, eq_comm]

/-- **The three segments of a token**: the header before the first dot, the claims, and the
signature after the last one. -/
structure Segments where
  head : List Char
  body : List Char
  tail : List Char

/-- The text that is signed, all before the last dot. -/
def Segments.signed (g : Segments) : List Char := g.head ++ '.' :: g.body

/-- **A token that is authentic**: it has these segments, each of them in base64url, and makes these
claims. -/
structure Authentic (s : Signer) (token : String) (g : Segments) (claims : Claims.Members) :
    Prop where
  joined : token.toList = g.signed ++ '.' :: g.tail
  first_dot : '.' ∉ g.head
  last_dot : '.' ∉ g.tail
  /-- The header is an object that is fit for tokens, and its algorithm is the signer's. -/
  header : ∃ bytes members, Bytes.ofBase64Url? g.head = some bytes ∧
    objectOf? bytes = some members ∧ headerFits members = true ∧
    Json.lookup? "alg" members = some (.text s.algorithm)
  body : ∃ bytes, Bytes.ofBase64Url? g.body = some bytes ∧ objectOf? bytes = some claims
  signature : ∃ hash, digest? s.algorithm = some hash ∧ Bytes.ofBase64Url? g.tail =
    some (hmac hash (Bytes.ofText s.secret) (Bytes.utf8 g.signed))

/-- The parts of a token are those of its segments. -/
theorem parts?_eq_some_iff {chars : List Char} {parts : Parts} :
    parts? chars = some parts ↔ ∃ g : Segments, chars = g.signed ++ '.' :: g.tail ∧
      '.' ∉ g.head ∧ '.' ∉ g.tail ∧ g.signed = parts.signed ∧
      (∃ bytes, Bytes.ofBase64Url? g.head = some bytes ∧ objectOf? bytes = some parts.header) ∧
      headerFits parts.header = true ∧ Bytes.ofBase64Url? g.body = some parts.body ∧
      Bytes.ofBase64Url? g.tail = some parts.signature := by
  unfold parts?
  simp only [Option.bind_eq_bind, Option.bind_eq_some_iff, Prod.exists,
    Option.ite_none_right_eq_some, Option.some.injEq]
  constructor
  · rintro ⟨signed, tail, last, head, body, first, bytes, decoded, header, object, claims, read,
      signature, sealed, fits, rfl⟩
    obtain ⟨rfl, lastDot⟩ := Text.splitLast?_eq_some last
    obtain ⟨rfl, firstDot⟩ := Text.splitFirst?_eq_some first
    exact ⟨⟨head, body, tail⟩, rfl, firstDot, lastDot, rfl, ⟨bytes, decoded, object⟩, fits, read,
      sealed⟩
  · obtain ⟨signed, header, body, signature⟩ := parts
    rintro ⟨g, rfl, firstDot, lastDot, rfl, ⟨bytes, decoded, object⟩, fits, read, sealed⟩
    exact ⟨g.signed, g.tail, Text.splitLast?_append g.signed lastDot, g.head, g.body,
      Text.splitFirst?_append firstDot g.body, bytes, decoded, header, object, body, read,
      signature, sealed, fits, rfl⟩

theorem namesAlgorithm_iff {members : Claims.Members} {algorithm : String} :
    namesAlgorithm members algorithm = true ↔
      Json.lookup? "alg" members = some (.text algorithm) ∧ algorithm ≠ "" := by
  unfold namesAlgorithm
  split
  · next name named =>
    rw [named, Bool.and_eq_true, beq_iff_eq, bne_iff_ne, Option.some.injEq, Json.text.injEq]
    exact and_congr_right fun same => same ▸ Iff.rfl
  · next other => exact iff_of_false Bool.noConfusion fun named => other algorithm named.1

/-- A text whose claims are looked at is authentic. -/
theorem exists_authentic_of_open? (may : s.MaySign) {claims : Claims.Members}
    (opened : s.open? token = .ok (some claims)) : ∃ g, s.Authentic token g claims := by
  unfold open? at opened
  split at opened
  · exact nomatch opened
  next parts taken =>
  split at opened
  · exact nomatch opened
  next algorithm =>
  split at opened
  · exact nomatch opened
  · exact nomatch opened
  next expected signed =>
  split at opened
  next same =>
    obtain ⟨g, joined, firstDot, lastDot, signed', ⟨bytes, decoded, object⟩, fits, read,
      sealed⟩ := parts?_eq_some_iff.mp taken
    have named := namesAlgorithm_iff.mp (by simpa using algorithm)
    obtain ⟨hash, known, digest⟩ := (signature_eq_ok_iff may).mp signed
    refine ⟨g, joined, firstDot, lastDot, ⟨bytes, _, decoded, object, fits, named.1⟩,
      ⟨_, read, Except.ok.inj opened⟩, hash, known, ?_⟩
    rw [sealed, same, digest, signed']
  · exact nomatch opened

/-- The claims of an authentic text are looked at. -/
theorem Authentic.open?_eq (may : s.MaySign) {g : Segments} {claims : Claims.Members}
    (h : s.Authentic token g claims) : s.open? token = .ok (some claims) := by
  obtain ⟨bytes, members, decoded, object, fits, named⟩ := h.header
  obtain ⟨body, read, claimed⟩ := h.body
  obtain ⟨hash, known, sealed⟩ := h.signature
  have taken : parts? token.toList = some ⟨g.signed, members, body,
      hmac hash (Bytes.ofText s.secret) (Bytes.utf8 g.signed)⟩ :=
    parts?_eq_some_iff.mpr ⟨g, h.joined, h.first_dot, h.last_dot, rfl, ⟨bytes, decoded, object⟩,
      fits, read, sealed⟩
  have given : s.algorithm ≠ "" := by
    intro empty
    rw [empty] at known
    exact nomatch known
  have algorithm : namesAlgorithm members s.algorithm = true :=
    namesAlgorithm_iff.mpr ⟨named, given⟩
  have signed : s.signature g.signed =
      .ok (hmac hash (Bytes.ofText s.secret) (Bytes.utf8 g.signed)) :=
    (signature_eq_ok_iff may).mpr ⟨hash, known, rfl⟩
  simp [open?, taken, algorithm, signed, claimed]

/-- **The claims of a text are looked at exactly if it is authentic.** -/
theorem open?_eq_some_iff (may : s.MaySign) {claims : Claims.Members} :
    s.open? token = .ok (some claims) ↔ ∃ g, s.Authentic token g claims :=
  ⟨exists_authentic_of_open? may, fun ⟨_, authentic⟩ => authentic.open?_eq may⟩

/-- A signer that may use its secret has no error of its own. -/
theorem open?_ne_error (may : s.MaySign) (e : SignerError) : s.open? token ≠ .error e := by
  unfold open?
  split
  · rintro ⟨⟩
  next parts taken =>
  split
  · rintro ⟨⟩
  split
  · rintro ⟨⟩
  · next refusal other refused =>
    obtain rfl | rfl := signature_eq_error refused
    · exact absurd refused (may _)
    · exact absurd rfl other
  · split <;> rintro ⟨⟩

/-! ## Verdicts on any text -/

/-- **A text is accepted exactly if it is authentic and its claims hold** in the second shown. -/
theorem verify_eq_ok_iff (date : Instant.isDate now = true) {user : Uuid} :
    s.verify token now = .ok user ↔ ∃ claims, s.open? token = .ok (some claims) ∧
      Claims.Hold s.issuer claims user (Instant.clockSecond now) := by
  unfold verify
  cases opened : s.open? token with
  | error e => simp
  | ok claims? =>
    cases claims? with
    | none => simp
    | some claims =>
      simp only [date, Bool.not_true, Bool.false_eq_true, if_false, Except.ok.injEq,
        Option.some.injEq, exists_eq_left', ← Claims.judge_eq_ok_iff]
      cases complete : Claims.isComplete claims with
      | true =>
        simp only [Bool.not_true, Bool.false_eq_true, if_false]
        cases Claims.judge s.issuer claims (Instant.clockSecond now) <;> simp
      | false =>
        refine iff_of_false (fun accepted => nomatch accepted) fun accepted => ?_
        exact nomatch complete.symm.trans (Claims.judge_eq_ok_iff.mp accepted).complete

/-- **A text is expired exactly if it is authentic** and its claims, as far as they tell the time,
have held and hold no longer. -/
theorem verify_eq_expired_iff (date : Instant.isDate now = true) :
    s.verify token now = .error (.denied .tokenExpired) ↔ ∃ claims,
      s.open? token = .ok (some claims) ∧ Claims.isComplete claims = true ∧
        Claims.Reached claims "iat" (Instant.clockSecond now) ∧
        Claims.Reached claims "nbf" (Instant.clockSecond now) ∧
        ∃ expiry, Claims.expiry? claims = some expiry ∧ expiry ≤ Instant.clockSecond now := by
  unfold verify
  cases opened : s.open? token with
  | error e => simp [Failure.denied]
  | ok claims? =>
    cases claims? with
    | none => simp [Failure.denied]
    | some claims =>
      simp only [date, Bool.not_true, Bool.false_eq_true, if_false, Except.ok.injEq,
        Option.some.injEq, exists_eq_left', ← Claims.judge_eq_expired_iff s.issuer]
      cases complete : Claims.isComplete claims with
      | true =>
        simp only [Bool.not_true, Bool.false_eq_true, if_false, true_and]
        cases Claims.judge s.issuer claims (Instant.clockSecond now) <;> simp [Failure.denied]
      | false => simp [Failure.denied]

/-- What is not accepted is denied, as invalid or as expired. -/
theorem verify_eq_error (may : s.MaySign) (date : Instant.isDate now = true) {e : Failure}
    (h : s.verify token now = .error e) :
    e = .denied .invalidToken ∨ e = .denied .tokenExpired := by
  unfold verify at h
  split at h
  · next refusal refused => exact absurd refused (open?_ne_error may refusal)
  · exact .inl (Except.error.inj h).symm
  · split at h
    · exact .inl (Except.error.inj h).symm
    split at h
    · next undated => simp [date] at undated
    split at h
    · exact nomatch h
    next denial judged =>
    obtain rfl := Except.error.inj h
    exact (Claims.judge_eq_error judged).imp (congrArg _) (congrArg _)

/-- **Every verdict has its reason.** A text is accepted exactly if it is authentic and its claims
hold; everything else is denied, and as expired only if it is authentic and its expiry has come. All
seconds are compared with the one that is shown: it is past the expiry no later than the instant
is, and any other second has come in it exactly if it has begun, wherever the clock tells the
instant apart from that second. -/
theorem verify_classified (may : s.MaySign) (token : String) (date : Instant.isDate now = true) :
    (∀ user, s.verify token now = .ok user ↔ ∃ g claims, s.Authentic token g claims ∧
      Claims.Hold s.issuer claims user (Instant.clockSecond now)) ∧
    (∀ e, s.verify token now = .error e → e = .denied .invalidToken ∨
      e = .denied .tokenExpired ∧ ∃ g claims expiry, s.Authentic token g claims ∧
        Claims.expiry? claims = some expiry ∧ expiry ≤ Instant.clockSecond now) ∧
    ∀ n, (Instant.clockSecond now < n → now < n * Instant.perSecond) ∧
      (Instant.TellsApart now n → (n ≤ Instant.clockSecond now ↔ n * Instant.perSecond ≤ now)) := by
  refine ⟨fun user => ?_, fun e failed => ?_, fun n => ⟨fun ahead => ?_, fun apart => ?_⟩⟩
  · rw [verify_eq_ok_iff date, exists_comm]
    refine exists_congr fun claims => ?_
    rw [open?_eq_some_iff may, exists_and_right]
  · obtain rfl | rfl := verify_eq_error may date failed
    · exact .inl rfl
    · obtain ⟨claims, opened, -, -, -, expiry, expires, past⟩ :=
        (verify_eq_expired_iff date).mp failed
      obtain ⟨g, authentic⟩ := (open?_eq_some_iff may).mp opened
      exact .inr ⟨rfl, g, claims, expiry, authentic, expires, past⟩
  · by_contra begun
    exact Int.not_le.mpr ahead (Instant.le_clockSecond date (Int.not_lt.mp begun))
  · exact Instant.le_clockSecond_iff date apart

/-- A token of 15 minutes, presented after five seconds: it is authentic, and its claims hold. -/
theorem fresh_authentic : ∃ (s : Signer) (token : String), s.MaySign ∧
    Instant.isDate 5000000 = true ∧ s.issue (Uuid.ofNat 1) 0 = .ok token ∧
    ∃ g claims, s.Authentic token g claims ∧
      Claims.Hold s.issuer claims (Uuid.ofNat 1) (Instant.clockSecond 5000000) := by
  let s : Signer := ⟨"dev", 900000000, "HS256", some "Größe"⟩
  have canSign : s.CanSign := (canSign_iff (by decide)).mpr own_dev
  have within : Instant.plus? 0 900000000 = some 900000000 := rfl
  obtain ⟨token, issued⟩ := canSign.issue within (Uuid.ofNat 1)
  have shown : Instant.clockSecond 5000000 = 5 := by decide +kernel
  have accepted : s.verify token 5000000 = .ok (Uuid.ofNat 1) := by
    rw [verify_eq_verdict (by decide) issued within (by decide), shown]
    rfl
  have date : Instant.isDate 5000000 = true := by decide
  have classified := verify_classified canSign.maySign token date
  exact ⟨s, token, canSign.maySign, date, issued, (classified.1 _).mp accepted⟩

/-- **The clock of tokens is early in the year 9000**: ten microseconds are left until the second of
issue that a token names, and it is accepted. -/
theorem accepted_beforehand : ∃ (s : Signer) (token : String), s.MaySign ∧
    s.issue (Uuid.ofNat 1) 221845392900000000 = .ok token ∧
    s.verify token 221845392899999990 = .ok (Uuid.ofNat 1) ∧
    ∀ g claims, s.Authentic token g claims → ∃ n, Json.lookup? "iat" claims = some (.int n) ∧
      221845392899999990 < n * Instant.perSecond := by
  let s : Signer := ⟨"dev", 900000000, "HS256", none⟩
  have canSign : s.CanSign := (canSign_iff (by decide)).mpr own_dev
  have within : Instant.plus? 221845392900000000 900000000 = some 221845393800000000 := rfl
  obtain ⟨token, issued⟩ := canSign.issue within (Uuid.ofNat 1)
  have shown : Instant.clockSecond 221845392899999990 = 221845392900 := by decide +kernel
  refine ⟨s, token, canSign.maySign, issued, ?_, fun g claims authentic => ?_⟩
  · rw [verify_eq_verdict (by decide) issued within (by decide), shown]
    rfl
  · obtain ⟨expiry, -, opened⟩ := open?_of_issue issued
    have same := ((open?_eq_some_iff canSign.maySign).mpr ⟨g, authentic⟩).symm.trans opened
    obtain rfl := Option.some.inj (Except.ok.inj same)
    exact ⟨221845392900, rfl, by decide⟩

end Signer
end LoginGate
