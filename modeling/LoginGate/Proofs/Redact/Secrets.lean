import LoginGate.Proofs.Redact.Tokens

/-!
# Proofs/Redact/Secrets — a message as it may be logged does not show its secret

The value behind a password or a refresh token makes no difference to what is left of a message that
ends in it, whatever stands in front, as long as a blank or nothing parts the key from it. The rules
that come before the one for the key may start in what stands in front, and some of them swallow the
key and all; none of them takes a part of the value, or tells two values apart.
-/

namespace LoginGate.Redact

open Text

/-! ## Rules that are solid -/

/-- A rule is solid if its values are plain. -/
theorem Keyed.solid_of_isPlain {k : Keyed}
    (words : ∀ word ∈ k.words, word.toList.any isBlank = false)
    (separator : k.separator = isAssignment) (value : ∀ c, k.value c = true → isPlain c = true)
    (least : 0 < k.least) : k.Solid where
  words := words
  separator c h := isBlank_of_isAssignment c (separator ▸ h)
  value c h := (isPlain_iff.mp (value c h)).1
  unquoted c h := (isPlain_iff.mp (value c h)).2
  least := least

theorem solid_secretKey : secretKey.Solid :=
  Keyed.solid_of_isPlain (by decide) rfl
    (fun _ h => isPlain_of_isDottedChar (isDottedChar_of_isTokenChar h)) (by decide)

theorem solid_jwtSecret : jwtSecret.Solid :=
  Keyed.solid_of_isPlain (by decide) rfl (fun _ h => h) (by decide)

theorem solid_accessToken : accessToken.Solid := by
  refine Keyed.solid_of_isPlain (by decide) rfl (fun c h => ?_) (by decide)
  obtain dotted | star := (Bool.or_eq_true ..).mp h
  · exact isPlain_of_isDottedChar dotted
  · exact of_decide_eq_true star ▸ by decide

theorem solid_refreshToken : refreshToken.Solid :=
  Keyed.solid_of_isPlain (by decide) rfl (fun _ h => isPlain_of_isDottedChar h) (by decide)

theorem solid_anyToken : anyToken.Solid :=
  Keyed.solid_of_isPlain (by decide) rfl (fun _ h => isPlain_of_isDottedChar h) (by decide)

theorem solid_password : password.Solid :=
  Keyed.solid_of_isPlain (by decide) rfl (fun _ h => h) (by decide)

theorem solid_passwordHash : passwordHash.Solid :=
  Keyed.solid_of_isPlain (by decide) rfl (fun _ h => h) (by decide)

/-! ## Passwords -/

/-- **A password as it may stand in a message**: not empty, without blanks and quotes. -/
def PlainValue (v : List Char) : Prop := v ≠ [] ∧ ∀ c ∈ v, isPlain c = true

/-- A password stays one, if what is put in is plain. -/
theorem PlainValue.replaceFrom {rule : Rule} {v : List Char} (h : PlainValue v)
    (puts : ∀ before s m, rule before s = some m → m.replacement ≠ [] ∧
      ∀ c ∈ m.replacement, c ∈ s ∨ isPlain c = true) (before : Option Char) :
    PlainValue (replaceFrom rule before 0 v) := by
  refine ⟨?_, forall_mem_replaceFrom (fun before s m plain found c mem => ?_) h.2⟩
  · obtain ⟨c, s, rfl⟩ := List.exists_cons_of_ne_nil h.1
    cases found : rule before (c :: s) with
    | none =>
      rw [replaceFrom_of_none found]
      exact List.cons_ne_nil _ _
    | some m =>
      rw [replaceFrom_of_some found]
      exact List.append_ne_nil_of_left_ne_nil (puts _ _ _ found).1 _
  · exact ((puts _ _ _ found).2 c mem).elim (plain c) id

theorem plainValue_toList_iff {p : String} : PlainValue p.toList ↔
    p ≠ "" ∧ ∀ c ∈ p.toList, isBlank c = false ∧ c ≠ '\'' ∧ c ≠ '"' := by
  simp only [PlainValue, isPlain_iff, isQuote_eq_false_iff, ne_eq, String.toList_eq_nil_iff]

theorem Keyed.closed_plainValue {k : Keyed} (solid : k.Solid) (before : Option Char) {v : List Char}
    (h : PlainValue v) : PlainValue (Redact.replaceFrom k.rule before 0 v) :=
  h.replaceFrom (fun _ _ _ found => ⟨replacement_ne_nil solid found, fun _ mem =>
    (mem_of_mem_replacement solid found mem).imp_right fun masked =>
      List.all_eq_true.mp (show mask.all isPlain = true by decide) _ masked⟩) before

section Passwords
variable {d : Char} (hd : d = ':' ∨ d = '=')
include hd

/-- The key of a password, and a password behind it, is plain as a whole. -/
theorem plain_passwordKey {v : List Char} (h : PlainValue v) :
    (∀ c ∈ "password".toList ++ [d] ++ v, isPlain c = true) ∧
      10 ≤ ("password".toList ++ [d] ++ v).length := by
  have plain : ("password".toList ++ [d]).all isPlain = true := by
    obtain rfl | rfl := hd <;> decide
  refine ⟨List.forall_mem_append.mpr ⟨List.all_eq_true.mp plain, h.2⟩, ?_⟩
  have some := List.length_pos_iff.mpr h.1
  have key : ("password".toList ++ [d]).length = 9 := rfl
  rw [List.length_append, key]
  omega

/-- A rule with a key other than the password's keeps that. -/
theorem Keyed.keeps_passwordKey {k : Keyed} {word : String} {words : List String} (solid : k.Solid)
    (first : k.words = word :: words) (separator : k.separator 'p' = false)
    (clashes : Clashes k.foldCase word.toList ("password".toList ++ [d]))
    (even : k.value d = false ∧ 8 < k.least ∨ k.value = isPlain ∧ k.least ≤ 10) :
    Keeps k.rule ("password".toList ++ [d]) PlainValue := by
  refine keeps solid ⟨'p', rfl, by decide, by decide, separator⟩
    (even.imp id fun ⟨value, short⟩ v h => ?_) first clashes
    fun before _ h => closed_plainValue solid before h
  obtain ⟨plain, long⟩ := plain_passwordKey hd h
  exact ⟨fun c mem => value ▸ plain c mem, Nat.le_trans short long⟩

/-- **The rules before the one for passwords keep the key of a password.** -/
theorem keeps_passwordKey : ∀ rule ∈ [secretKey.rule, jwtSecret.rule, compactToken, bearer,
    accessToken.rule, refreshToken.rule, anyToken.rule],
    Keeps rule ("password".toList ++ [d]) PlainValue := by
  have clashes : ∀ word ∈ ["secret", "jwt", "eyJ", "bearer", "access", "refresh", "token"],
      ∀ foldCase, Clashes foldCase word.toList ("password".toList ++ [d]) := by
    obtain rfl | rfl := hd <;> decide
  -- neither separator may stand in a token; the secret of a signer is as plain as a password
  obtain ⟨token, dotted, starred, folded⟩ : secretKey.value d = false ∧
      isDottedChar d = false ∧ accessToken.value d = false ∧ isFoldedDottedChar d = false := by
    obtain rfl | rfl := hd <;> decide
  simp only [List.forall_mem_cons]
  refine ⟨?_, ?_, ?_, ?_, ?_, ?_, ?_, nofun⟩
  · exact Keyed.keeps_passwordKey hd solid_secretKey rfl (by decide)
      (clashes "secret" (by decide) _) (.inl ⟨token, by decide⟩)
  · exact Keyed.keeps_passwordKey hd solid_jwtSecret rfl (by decide)
      (clashes "jwt" (by decide) _) (.inr ⟨rfl, by decide⟩)
  · refine keeps_compactToken (clashes "eyJ" (by decide) false) fun before v h =>
      h.replaceFrom ?_ before
    intro _ _ _ found
    obtain ⟨_, _, _, _, rfl⟩ := compactToken_eq_some found
    have some : compactMask ≠ [] := by decide
    have plain : compactMask.all isPlain = true := by decide
    exact ⟨some, fun c mem => .inr (List.all_eq_true.mp plain c mem)⟩
  · exact keeps_bearer (clashes "bearer" (by decide) true) ⟨'p', rfl, by decide⟩ folded (by decide)
      fun _ h => h.2
  · exact Keyed.keeps_passwordKey hd solid_accessToken rfl (by decide)
      (clashes "access" (by decide) _) (.inl ⟨starred, by decide⟩)
  · exact Keyed.keeps_passwordKey hd solid_refreshToken rfl (by decide)
      (clashes "refresh" (by decide) _) (.inl ⟨dotted, by decide⟩)
  · exact Keyed.keeps_passwordKey hd solid_anyToken rfl (by decide)
      (clashes "token" (by decide) _) (.inl ⟨dotted, by decide⟩)

/-- **The rule for passwords hides them.** -/
theorem hides_password : Hides password.rule ("password".toList ++ [d]) PlainValue := by
  refine Keyed.hides solid_password ⟨'p', rfl, by decide⟩ (.inr fun v h => ?_) (fun v h => ?_)
    fun v => ?_
  · obtain ⟨plain, long⟩ := plain_passwordKey hd h
    exact ⟨plain, Nat.le_trans (by decide) long⟩
  · exact ⟨h.2, List.length_pos_iff.mpr h.1⟩
  · obtain rfl | rfl := hd <;> rfl

end Passwords

/-! ## Refresh tokens -/

/-- **A token as it may stand in a message**: long enough, and in base64url. -/
def TokenValue (v : List Char) : Prop := 20 ≤ v.length ∧ ∀ c ∈ v, isTokenChar c = true

theorem tokenValue_toList_iff {t : String} : TokenValue t.toList ↔
    20 ≤ t.length ∧ ∀ c ∈ t.toList, c.isAlphanum ∨ c = '_' ∨ c = '-' := by
  simp only [TokenValue, isTokenChar_iff, String.length_toList]

theorem isPlain_of_isTokenChar {c : Char} (h : isTokenChar c = true) : isPlain c = true :=
  isPlain_of_isDottedChar (isDottedChar_of_isTokenChar h)

/-- There is nothing in a token that a rule with a key could match. -/
theorem Keyed.closed_tokenValue {k : Keyed} (solid : k.Solid)
    (separator : k.separator = isAssignment) (before : Option Char) {v : List Char}
    (h : TokenValue v) : TokenValue (replaceFrom k.rule before 0 v) := by
  rwa [replaceFrom_eq_self fun _ u _ suffix => rule_eq_none_of_separator solid fun c mem =>
    separator ▸ isAssignment_of_isTokenChar (h.2 c (suffix.subset mem))]

/-- **The rules before the one for refresh tokens keep the key of one.** -/
theorem keeps_refreshTokenKey : ∀ rule ∈ [secretKey.rule, jwtSecret.rule, compactToken, bearer,
    accessToken.rule], Keeps rule ("refresh_token".toList ++ ['=']) TokenValue := by
  simp only [List.forall_mem_cons]
  refine ⟨?_, ?_, ?_, ?_, ?_, nofun⟩
  · exact Keyed.keeps solid_secretKey ⟨'r', rfl, by decide⟩ (.inl (by decide)) rfl (by decide)
      fun before _ h => Keyed.closed_tokenValue solid_secretKey rfl before h
  · refine Keyed.keeps solid_jwtSecret ⟨'r', rfl, by decide⟩ (.inr fun v h => ?_) rfl (by decide)
      fun before _ h => Keyed.closed_tokenValue solid_jwtSecret rfl before h
    have plain : ("refresh_token".toList ++ ['=']).all isPlain = true := by decide
    refine ⟨List.forall_mem_append.mpr ⟨List.all_eq_true.mp plain,
      fun c mem => isPlain_of_isTokenChar (h.2 c mem)⟩, ?_⟩
    have long := h.1
    have least : jwtSecret.least = 8 := rfl
    rw [List.length_append, least]
    omega
  · refine keeps_compactToken (by decide) fun before v h => ?_
    rwa [replaceFrom_eq_self fun _ u _ suffix => compactToken_eq_none fun dot =>
      absurd (h.2 _ (suffix.subset dot)) (by decide)]
  · exact keeps_bearer (by decide) ⟨'r', rfl, by decide⟩ (by decide) (by decide)
      fun _ h c mem => isPlain_of_isTokenChar (h.2 c mem)
  · exact Keyed.keeps solid_accessToken ⟨'r', rfl, by decide⟩ (.inl (by decide)) rfl (by decide)
      fun before _ h => Keyed.closed_tokenValue solid_accessToken rfl before h

/-- **The rule for refresh tokens hides them.** -/
theorem hides_refreshToken :
    Hides refreshToken.rule ("refresh_token".toList ++ ['=']) TokenValue := by
  refine Keyed.hides solid_refreshToken ⟨'r', rfl, by decide⟩ (.inl (by decide)) (fun v h => ?_)
    fun v => rfl
  exact ⟨fun c mem => isDottedChar_of_isTokenChar (h.2 c mem), h.1⟩

/-! ## Messages -/

section Messages
variable {front : List Char} (apart : front = [] ∨ EndsBlank front)
include apart

theorem redactText_eq_of_password {d : Char} (hd : d = ':' ∨ d = '=') {p₁ p₂ : List Char}
    (h₁ : PlainValue p₁) (h₂ : PlainValue p₂) :
    redactText (front ++ ("password".toList ++ [d] ++ p₁)) =
      redactText (front ++ ("password".toList ++ [d] ++ p₂)) :=
  (Alike.behind apart h₁ h₂).foldl_eq (keeps_passwordKey hd) (hides_password hd)

theorem redactText_eq_of_refreshToken {t₁ t₂ : List Char} (h₁ : TokenValue t₁)
    (h₂ : TokenValue t₂) :
    redactText (front ++ ("refresh_token".toList ++ ['='] ++ t₁)) =
      redactText (front ++ ("refresh_token".toList ++ ['='] ++ t₂)) :=
  (Alike.behind apart h₁ h₂).foldl_eq keeps_refreshTokenKey hides_refreshToken

end Messages

/-- **A secret that ends a message does not show.** If a blank or nothing parts the key from what
stands in front of it, then passwords (not empty, without blanks and quotes) and refresh tokens (of
at least twenty characters) make no difference. -/
theorem redact_eq_of_secret {front : String}
    (apart : ∀ c ∈ front.toList.getLast?, isBlank c = true) :
    (∀ key ∈ ["password=", "password:"], ∀ p₁ p₂ : String,
      (∀ p ∈ [p₁, p₂], p ≠ "" ∧ ∀ c ∈ p.toList, isBlank c = false ∧ c ≠ '\'' ∧ c ≠ '"') →
        redact (front ++ key ++ p₁) = redact (front ++ key ++ p₂)) ∧
      ∀ t₁ t₂ : String,
        (∀ t ∈ [t₁, t₂], 20 ≤ t.length ∧ ∀ c ∈ t.toList, c.isAlphanum ∨ c = '_' ∨ c = '-') →
          redact (front ++ "refresh_token=" ++ t₁) = redact (front ++ "refresh_token=" ++ t₂) := by
  have apart : front.toList = [] ∨ EndsBlank front.toList := by
    cases last : front.toList.getLast? with
    | none => exact .inl (List.getLast?_eq_none_iff.mp last)
    | some c => exact .inr ⟨c, last, apart c last⟩
  have split (key p : String) : redact (front ++ key ++ p) =
      String.ofList (redactText (front.toList ++ (key.toList ++ p.toList))) := by
    rw [redact, String.toList_append, String.toList_append, List.append_assoc]
  constructor
  · intro key hkey p₁ p₂ h
    have value (p) (hp : p ∈ [p₁, p₂]) : PlainValue p.toList := plainValue_toList_iff.mpr (h p hp)
    obtain ⟨d, hd, named⟩ : ∃ d, (d = ':' ∨ d = '=') ∧ key.toList = "password".toList ++ [d] := by
      simp only [List.mem_cons, List.not_mem_nil, or_false] at hkey
      obtain rfl | rfl := hkey
      · exact ⟨'=', .inr rfl, rfl⟩
      · exact ⟨':', .inl rfl, rfl⟩
    rw [split, split, named, redactText_eq_of_password apart hd (value p₁ List.mem_cons_self)
      (value p₂ (List.mem_cons_of_mem _ List.mem_cons_self))]
  · intro t₁ t₂ h
    have value (t) (ht : t ∈ [t₁, t₂]) : TokenValue t.toList := tokenValue_toList_iff.mpr (h t ht)
    have named : "refresh_token=".toList = "refresh_token".toList ++ ['='] := by decide
    rw [split, split, named, redactText_eq_of_refreshToken apart (value t₁ List.mem_cons_self)
      (value t₂ (List.mem_cons_of_mem _ List.mem_cons_self))]

/-- Two passwords and two tokens, and one line in the log. -/
theorem redact_eq_of_login :
    redact "login alice password=hunter2" = redact "login alice password=x" ∧
      redact "refresh_token=aaaaaaaaaaaaaaaaaaaa" =
        redact "refresh_token=0123456789_-0123456789" := by
  have front : ∀ c ∈ "login alice ".toList.getLast?, isBlank c = true := by
    intro c last
    obtain rfl : ' ' = c := Option.some.inj last
    decide
  have nothing : ∀ c ∈ "".toList.getLast?, isBlank c = true := by
    intro c last
    exact absurd last (List.getLast?_nil ▸ Option.not_mem_none c)
  have passwords : ∀ p ∈ ["hunter2", "x"], p.toList ≠ [] ∧ p.toList.all isPlain = true := by decide
  have tokens : ∀ t ∈ ["aaaaaaaaaaaaaaaaaaaa", "0123456789_-0123456789"],
      20 ≤ t.toList.length ∧ t.toList.all isTokenChar = true := by decide
  exact ⟨(redact_eq_of_secret front).1 "password=" (by decide) "hunter2" "x" fun p hp =>
      plainValue_toList_iff.mp ((passwords p hp).imp_right List.all_eq_true.mp),
    (redact_eq_of_secret nothing).2 "aaaaaaaaaaaaaaaaaaaa" "0123456789_-0123456789" fun t ht =>
      tokenValue_toList_iff.mp ((tokens t ht).imp_right List.all_eq_true.mp)⟩

end LoginGate.Redact
