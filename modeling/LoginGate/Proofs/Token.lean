import LoginGate.Proofs.Clock
import LoginGate.Proofs.Json
import LoginGate.Settings.Section
import LoginGate.Token.Signer

/-!
# Proofs/Token — a token issued is verified

What is signed for a token is taken apart again at the dots, and the segments are read back as the
header and the claims that they were written for. So the signer finds its own signature, and what
it then judges are the claims that it has made: they name the user, they were issued in a second
that has begun, and they expire in the second that the lifetime leads to.
-/

namespace LoginGate

/-! ## Subjects -/

namespace Uuid

/-- The groups have nothing but the digits and the hyphens between. -/
theorem mem_of_mem_grouped {ds : List Char} {c : Char} (h : c ∈ grouped ds) : c = '-' ∨ c ∈ ds := by
  simp only [grouped, List.mem_append, List.mem_cons] at h
  obtain ((((mem | rfl | mem) | rfl | mem) | rfl | mem) | rfl | mem) := h
  · exact .inr (List.mem_of_mem_take mem)
  · exact .inl rfl
  · exact .inr (List.mem_of_mem_drop (List.mem_of_mem_take mem))
  · exact .inl rfl
  · exact .inr (List.mem_of_mem_drop (List.mem_of_mem_take mem))
  · exact .inl rfl
  · exact .inr (List.mem_of_mem_drop (List.mem_of_mem_take mem))
  · exact .inl rfl
  · exact .inr (List.mem_of_mem_drop mem)

/-- Without the hyphens the groups are the digits. -/
theorem filter_grouped {ds : List Char} (h : '-' ∉ ds) :
    (grouped ds).filter (· != '-') = ds := by
  have kept {l : List Char} (sub : l ⊆ ds) : l.filter (· != '-') = l :=
    List.filter_eq_self.mpr fun c hc => bne_iff_ne.mpr fun same => h (same ▸ sub hc)
  have join (i j : Nat) : (ds.drop i).take j ++ ds.drop (i + j) = ds.drop i := by
    rw [← List.drop_drop, List.take_append_drop]
  have inner (i j : Nat) : (ds.drop i).take j ⊆ ds :=
    fun _ mem => List.mem_of_mem_drop (List.mem_of_mem_take mem)
  have hyphen (l : List Char) : ('-' :: l).filter (· != '-') = l.filter (· != '-') := by
    simp
  simp only [grouped, List.filter_append, hyphen, kept (List.take_subset 8 ds), kept (inner 8 4),
    kept (inner 12 4), kept (inner 16 4), kept (List.drop_subset 20 ds), List.append_assoc]
  rw [join 16 4, join 12 4, join 8 4, List.take_append_drop]

/-- A digit of an identifier is a digit in base sixteen. -/
theorem exists_digit_of_mem {u : Uuid} {c : Char} (h : c ∈ u.digits) :
    ∃ d, d < 16 ∧ Bytes.hexDigit d = c := by
  obtain ⟨ds, written, digits, -⟩ := Number.exists_digits_of_hexNumeral 32 u.value
  rw [Uuid.digits, written] at h
  obtain ⟨d, hd, rfl⟩ := List.mem_map.mp h
  exact ⟨d, digits d hd, rfl⟩

/-- What is neither a hyphen nor a digit stands nowhere in a canonical text. -/
theorem notMem_grouped {u : Uuid} {c : Char} (hyphen : c ≠ '-')
    (other : ∀ d, d < 16 → Bytes.hexDigit d ≠ c) : c ∉ grouped u.digits := by
  intro mem
  obtain rfl | mem := mem_of_mem_grouped mem
  · exact hyphen rfl
  · obtain ⟨d, small, same⟩ := exists_digit_of_mem mem
    exact other d small same

/-- What is left of a canonical text without its marks is the digits. -/
theorem unmarked_grouped (u : Uuid) : unmarked (grouped u.digits) = u.digits := by
  have noMark : 'u' ∉ grouped u.digits := notMem_grouped (by decide) (by decide)
  have noBrace (c : Char) (hc : c ∈ grouped u.digits) : (c == '\x7b' || c == '\x7d') = false := by
    have opening : '\x7b' ∉ grouped u.digits := notMem_grouped (by decide) (by decide)
    have closing : '\x7d' ∉ grouped u.digits := notMem_grouped (by decide) (by decide)
    rw [Bool.or_eq_false_iff]
    exact ⟨beq_false_of_ne fun same => opening (same ▸ hc),
      beq_false_of_ne fun same => closing (same ▸ hc)⟩
  have noHyphen : '-' ∉ u.digits := by
    intro mem
    obtain ⟨d, small, same⟩ := exists_digit_of_mem mem
    exact (Number.hexDigit_ne small).2.1 same
  unfold unmarked
  simp only
  rw [show "urn:".toList = 'u' :: "rn:".toList from by decide, Text.removeAll_eq_self noMark,
    show "uuid:".toList = 'u' :: "uid:".toList from by decide, Text.removeAll_eq_self noMark,
    Text.trimWhile_eq_self (fun c hc => noBrace c (List.mem_of_mem_head? hc))
      fun c hc => noBrace c (List.mem_of_mem_getLast? hc), filter_grouped noHyphen]

/-- **The lenient reader takes the canonical text.** -/
theorem ofLoose?_text (u : Uuid) : ofLoose? u.text.toList = some u := by
  have bound : u.value % 16 ^ 32 = u.value := Nat.mod_eq_of_lt (u.isLt.trans_eq (by decide))
  rw [ofLoose?, text, String.toList_ofList, unmarked_grouped]
  simp only [digits, Bytes.length_hexNumeral, if_true,
    Number.integer?_hexNumeral (by decide : 0 < 32), bound]
  rw [ofNat?, dif_pos u.isLt]

end Uuid

/-! ## Claims -/

namespace Claims

/-- What the claims of a signer say, name by name. -/
theorem lookup?_claims (s : Signer) (user : Uuid) (issued expiry : Int) (name : String) :
    Json.lookup? name (s.claims user issued expiry) =
      if name = "sub" then some (.text user.text)
      else if name = "iat" then some (.int issued)
      else if name = "exp" then some (.int expiry)
      else if name = "iss" then (s.issuer.filter (· ≠ "")).map .text
      else none := by
  obtain ⟨secret, lifetime, algorithm, issuer⟩ := s
  obtain _ | issuer := issuer
  · split_ifs with sub iat exp iss
    · subst sub; rfl
    · subst iat; rfl
    · subst exp; rfl
    · subst iss; rfl
    · simp [Signer.claims, Json.lookup?, Ne.symm sub, Ne.symm iat, Ne.symm exp]
  · by_cases empty : issuer = ""
    · subst empty
      split_ifs with sub iat exp iss
      · subst sub; rfl
      · subst iat; rfl
      · subst exp; rfl
      · subst iss; rfl
      · simp [Signer.claims, Json.lookup?, Ne.symm sub, Ne.symm iat, Ne.symm exp]
    · split_ifs with sub iat exp iss
      · simp [Signer.claims, Json.lookup?, empty, sub]
      · simp [Signer.claims, Json.lookup?, empty, iat]
      · simp [Signer.claims, Json.lookup?, empty, exp]
      · simp [Signer.claims, Json.lookup?, empty, iss, Option.filter]
      · simp [Signer.claims, Json.lookup?, empty, Ne.symm sub, Ne.symm iat, Ne.symm exp,
          Ne.symm iss]

/-- **The claims of a signer are judged by their expiry alone**, once the second of issue has begun.
A signer whose issuer is empty does not name it in the claims, and misses it then. -/
theorem judge_claims {s : Signer} (named : s.issuer ≠ some "") (user : Uuid)
    {issued expiry now : Int} (begun : issued ≤ now) :
    judge s.issuer (s.claims user issued expiry) now =
      if expiry ≤ now then .error .tokenExpired else .ok user := by
  have look := lookup?_claims s user issued expiry
  have text_ne : user.text ≠ "" := by
    intro empty
    have read := Uuid.ofLoose?_text user
    rw [empty] at read
    exact nomatch (show Uuid.ofLoose? "".toList = none by decide).symm.trans read
  have come : hasCome (s.claims user issued expiry) "iat" now = true := by
    simp [hasCome, look, wholeNumber?, begun]
  have early : hasCome (s.claims user issued expiry) "nbf" now = true := by
    simp [hasCome, look]
  have expires : expiry? (s.claims user issued expiry) = some expiry := by
    simp [expiry?, look, wholeNumber?]
  have fits : issuerFits s.issuer (s.claims user issued expiry) = true := by
    cases issuer : s.issuer with
    | none => rfl
    | some name =>
      have given : name ≠ "" := fun empty => named (issuer.trans (congrArg some empty))
      simp [issuerFits, look, issuer, given, Option.filter]
  have rest : (isForAnyone (s.claims user issued expiry) &&
      isTextIfGiven (s.claims user issued expiry) "sub" &&
      isTextIfGiven (s.claims user issued expiry) "jti") = true := by
    simp [isForAnyone, isTextIfGiven, look]
  have subject : subject? (s.claims user issued expiry) = some user := by
    simp [subject?, look, text_ne, Uuid.ofLoose?_text]
  simp only [Bool.and_eq_true] at rest
  unfold judge
  simp [come, early, expires, subject, fits, rest]

/-- **Claims that come too early are refused**, whatever else they say. -/
theorem judge_claims_of_early {s : Signer} (user : Uuid) {issued expiry now : Int}
    (early : now < issued) :
    judge s.issuer (s.claims user issued expiry) now = .error .invalidToken := by
  have come : hasCome (s.claims user issued expiry) "iat" now = false := by
    simp [hasCome, lookup?_claims, wholeNumber?, early]
  simp [judge, come]

end Claims

/-! ## Tokens -/

namespace Signer

variable {s : Signer} {user : Uuid} {now : Instant} {token : String}

theorem claims_ne_nil (user : Uuid) (issued expiry : Int) : s.claims user issued expiry ≠ [] := by
  simp [claims]

/-- The seconds of dates are short. -/
theorem short_second {t : Instant} (date : Instant.isDate t = true) :
    (Number.decimal (Instant.second t).natAbs).length ≤ Number.maxDecimalDigits := by
  have range := Instant.isDate_iff.mp date
  have small : (Instant.second t).natAbs < 10 ^ 12 := by
    simp only [Instant.second, Instant.perSecond]
    omega
  exact ((Number.length_decimal_le_iff (by decide)).mpr small).trans (by decide)

/-- The claims for dates are texts and short integers. -/
theorem scalar_of_mem_claims {issued expiry : Instant} (dateIssued : Instant.isDate issued = true)
    (dateExpiry : Instant.isDate expiry = true) :
    ∀ m ∈ s.claims user (Instant.second issued) (Instant.second expiry), Json.Scalar m.2 := by
  intro m hm
  have short := short_second dateIssued
  have short' := short_second dateExpiry
  simp only [claims, List.mem_append, List.mem_cons, List.not_mem_nil, or_false] at hm
  obtain (rfl | rfl | rfl) | hm := hm
  · exact .text _
  · exact .int _ short
  · exact .int _ short'
  · split at hm
    · split at hm
      · exact absurd hm List.not_mem_nil
      · obtain rfl := List.mem_singleton.mp hm
        exact .text _
    · exact absurd hm List.not_mem_nil

/-- What is written for an object is read back from its bytes. -/
theorem objectOf?_write {ms : Claims.Members} (ne : ms ≠ []) (scalar : ∀ m ∈ ms, Json.Scalar m.2) :
    objectOf? (Bytes.utf8 (Json.write .compact (.object ms))) = some ms := by
  rw [objectOf?, Json.ofBytes_write ne scalar]

/-- The members of a header. -/
def headerMembers (algorithm : String) : Claims.Members :=
  [("alg", .text algorithm), ("typ", .text "JWT")]

theorem objectOf?_header (algorithm : String) :
    objectOf? (Bytes.utf8 (Json.write .compact (header algorithm))) =
      some (headerMembers algorithm) := by
  refine objectOf?_write (List.cons_ne_nil _ _) fun m hm => ?_
  simp only [List.mem_cons, List.not_mem_nil, or_false] at hm
  obtain rfl | rfl := hm
  · exact .text _
  · exact .text _

/-- **A token falls into the parts that it was put together from.** -/
theorem parts?_signedText (algorithm : String) (ms : Claims.Members) (bytes : List UInt8) :
    parts? (signedText algorithm ms ++ '.' :: Bytes.toBase64Url bytes) =
      some { signed := signedText algorithm ms
             header := headerMembers algorithm
             body := Bytes.utf8 (Json.write .compact (.object ms))
             signature := bytes } := by
  have last := Text.splitLast?_append (signedText algorithm ms)
    (Bytes.dot_notMem_toBase64Url bytes)
  have first := Text.splitFirst?_append (Bytes.dot_notMem_toBase64Url
    (Bytes.utf8 (Json.write .compact (header algorithm)))) (segment (.object ms))
  have fits : headerFits (headerMembers algorithm) = true := rfl
  unfold parts?
  simp only [last, Option.bind_eq_bind, Option.bind_some]
  unfold signedText segment at first ⊢
  simp only [first, Option.bind_some, Bytes.ofBase64Url?_toBase64Url, objectOf?_header, fits,
    if_true]

/-- Whoever can sign names an algorithm. -/
theorem namesAlgorithm_of_signature {signed : List Char} {bytes : List UInt8}
    (h : s.signature signed = .ok bytes) :
    namesAlgorithm (headerMembers s.algorithm) s.algorithm = true := by
  have given : s.algorithm ≠ "" := by
    intro empty
    rw [signature, empty] at h
    exact nomatch h
  simp [namesAlgorithm, headerMembers, Json.lookup?, given]

/-- **The claims of a token issued are found in it.** -/
theorem open?_of_issue (issued : s.issue user now = .ok token) :
    ∃ expiry, Instant.plus? now s.lifetime = some expiry ∧
      s.open? token = .ok (some (s.claims user (Instant.second now) (Instant.second expiry))) := by
  unfold issue at issued
  split at issued
  · exact nomatch issued
  next expiry within =>
  simp only at issued
  split at issued
  · exact nomatch issued
  next bytes signed =>
  obtain rfl := Except.ok.inj issued
  obtain ⟨dateIssued, dateExpiry, -⟩ := Instant.plus?_eq_some within
  refine ⟨expiry, within, ?_⟩
  have scalar : ∀ m ∈ s.claims user (Instant.second now) (Instant.second expiry),
      Json.Scalar m.2 := scalar_of_mem_claims dateIssued dateExpiry
  have read := objectOf?_write (claims_ne_nil user _ _) scalar
  unfold open?
  rw [String.toList_ofList, parts?_signedText]
  simp only [namesAlgorithm_of_signature signed, signed, read]
  rfl

/-- **A token issued is judged by its claims** at any date. -/
theorem verify_eq_judge (issued : s.issue user now = .ok token) :
    ∃ expiry, Instant.plus? now s.lifetime = some expiry ∧ ∀ later, Instant.isDate later = true →
      s.verify token later = (Claims.judge s.issuer
        (s.claims user (Instant.second now) (Instant.second expiry))
        (Instant.clockSecond later)).mapError .denied := by
  obtain ⟨expiry, within, opened⟩ := open?_of_issue issued
  refine ⟨expiry, within, fun later date => ?_⟩
  have complete : Claims.isComplete
      (s.claims user (Instant.second now) (Instant.second expiry)) = true := by
    simp [Claims.isComplete, Claims.isGiven, Claims.lookup?_claims]
  unfold verify
  rw [opened]
  simp only [complete, date, Bool.not_true, Bool.false_eq_true, if_false]
  cases Claims.judge s.issuer (s.claims user (Instant.second now) (Instant.second expiry))
    (Instant.clockSecond later) with
  | ok user => rfl
  | error denial => rfl

/-- **A token issued is verified** at any later date: it is the user's until its expiry is shown,
and expired from then on. -/
theorem verify_of_issue (named : s.issuer ≠ some "") (issued : s.issue user now = .ok token) :
    ∃ expiry, Instant.plus? now s.lifetime = some expiry ∧ ∀ later, now ≤ later →
      Instant.isDate later = true → s.verify token later =
        if Instant.second expiry ≤ Instant.clockSecond later then .error (.denied .tokenExpired)
        else .ok user := by
  obtain ⟨expiry, within, judged⟩ := verify_eq_judge issued
  refine ⟨expiry, within, fun later le date => ?_⟩
  have begun : Instant.second now ≤ Instant.clockSecond later := by
    refine Instant.le_clockSecond date (le_trans ?_ le)
    exact Int.ediv_mul_le now (by decide)
  rw [judged later date, Claims.judge_claims named user begun]
  split_ifs
  · rfl
  · rfl

/-! ## Secrets to sign with

Whether a secret is fit to sign with does not depend on what is signed. -/

/-- **A signer that can sign** whatever it is given. -/
def CanSign (signer : Signer) : Prop := ∀ signed, ∃ bytes, signer.signature signed = .ok bytes

/-- Whether a signer can sign does not depend on what it is given. -/
theorem canSign_of_signature {signer : Signer} {signed : List Char} {bytes : List UInt8}
    (h : signer.signature signed = .ok bytes) : signer.CanSign := by
  intro other
  unfold signature at h ⊢
  split at h
  · exact nomatch h
  next algorithm =>
  rw [if_neg algorithm]
  split at h
  · exact nomatch h
  next hash known =>
  split at h
  · exact nomatch h
  next key =>
  exact ⟨_, if_neg key⟩

/-- A signer that has issued a token can sign. -/
theorem canSign_of_issue {signer : Signer} {user : Uuid} {now : Instant} {accessToken : String}
    (h : signer.issue user now = .ok accessToken) : signer.CanSign := by
  unfold issue at h
  split at h
  · exact nomatch h
  · simp only at h
    split at h
    · exact nomatch h
    · next bytes signed => exact canSign_of_signature signed

/-- A token for which there is no expiry is not issued. -/
theorem issue_of_overlong {signer : Signer} {now : Instant}
    (beyond : Instant.plus? now signer.lifetime = none) (user : Uuid) :
    signer.issue user now = .error .noDate := by
  unfold issue
  rw [beyond]

/-- **A signer that can sign issues a token whenever there is an expiry for it.** -/
theorem CanSign.issue {signer : Signer} (h : signer.CanSign) {now expiry : Instant}
    (within : Instant.plus? now signer.lifetime = some expiry) (user : Uuid) :
    ∃ accessToken, signer.issue user now = .ok accessToken := by
  obtain ⟨bytes, signed⟩ := h (signedText signer.algorithm
    (signer.claims user (Instant.second now) (Instant.second expiry)))
  unfold Signer.issue
  rw [within]
  simp only [signed]
  exact ⟨_, rfl⟩

/-- **With a known algorithm a signer can sign** unless its secret is a key of another kind. -/
theorem canSign_iff (known : s.algorithm ∈ Settings.algorithms) :
    s.CanSign ↔ Key.isForeign s.secret = false := by
  have algorithm : s.algorithm ≠ unsigned := by
    intro same
    rw [same] at known
    exact absurd known (by decide)
  obtain ⟨hash, digest⟩ : ∃ hash, digest? s.algorithm = some hash := by
    simp only [Settings.algorithms, List.mem_cons, List.not_mem_nil, or_false] at known
    obtain same | same | same := known
    · exact ⟨.sha256, by rw [same]; decide⟩
    · exact ⟨.sha384, by rw [same]; decide⟩
    · exact ⟨.sha512, by rw [same]; decide⟩
  have signature (signed : List Char) : s.signature signed =
      if Key.isForeign s.secret then .error .unusableKey
      else .ok (hmac hash (Bytes.ofText s.secret) (Bytes.utf8 signed)) := by
    rw [Signer.signature, if_neg algorithm, digest]
  cases foreign : Key.isForeign s.secret with
  | true =>
    refine iff_of_false (fun canSign => ?_) Bool.noConfusion
    obtain ⟨bytes, signed⟩ := canSign []
    rw [signature, foreign, if_pos rfl] at signed
    cases signed
  | false =>
    refine iff_of_true (fun signed => ?_) rfl
    rw [signature, foreign]
    exact ⟨_, rfl⟩

end Signer
end LoginGate
