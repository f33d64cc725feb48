import LoginGate.Proofs.Redact.Settled
import LoginGate.Proofs.Redact.Starless
import LoginGate.Proofs.Redact.Wear

/-!
# Proofs/Redact/Twice — a message that is masked twice

Seven of the thirteen rules change nothing in what is left of a message: five match nowhere in it,
and what the two for headers find is their own mask. So a second round does what the other six rules
do. Two of these need an `@`. An access token is longer than a mask. The three whose values are
plain leave their masks alone, and find nothing else where every key has had a value that is long
enough; a value that is too short may have grown, when a part of it was masked.
-/

namespace LoginGate.Redact

open Text

variable {s : List Char}

/-! ## The rules with a key -/

/-- The rules with a key but those for headers: there are no blanks in their values. -/
def solidRules : List Keyed :=
  [secretKey, jwtSecret, accessToken, refreshToken, anyToken, password, passwordHash]

theorem forall_mem_keyedRules_iff {P : Keyed → Prop} :
    (∀ k ∈ keyedRules, P k) ↔ (∀ k ∈ solidRules, P k) ∧ P authorization ∧ P cookie := by
  have split : keyedRules = solidRules ++ [authorization, cookie] := rfl
  rw [split, List.forall_mem_append, List.forall_mem_cons, List.forall_mem_singleton]

theorem mem_keyedRules {k : Keyed} (h : k ∈ solidRules) : k ∈ keyedRules :=
  (forall_mem_keyedRules_iff.mp fun _ mem => mem).1 k h

theorem solid_of_mem : ∀ k ∈ solidRules, k.Solid := by
  simp only [solidRules, List.forall_mem_cons]
  exact ⟨solid_secretKey, solid_jwtSecret, solid_accessToken, solid_refreshToken, solid_anyToken,
    solid_password, solid_passwordHash, List.forall_mem_nil _⟩

/-- **The rules with a key can tell their own masks.** -/
theorem firm_of_mem : ∀ k ∈ keyedRules, k.Firm := by
  have wide : authorization.Wide mask ∧ cookie.Wide mask :=
    ⟨⟨List.all_eq_true.mp (by decide), by decide⟩, List.all_eq_true.mp (by decide), by decide⟩
  exact forall_mem_keyedRules_iff.mpr
    ⟨fun k mem => .inl (solid_of_mem k mem).value, .inr wide.1, .inr wide.2⟩

/-- The value of a header may hold whatever is plain. -/
theorem value_of_isPlain {c : Char} (h : isPlain c = true) : (!isQuote c) = true := by
  rw [(isPlain_iff.mp h).2]
  rfl

/-- Every value but those of headers is plain, and those take in whatever is. -/
theorem comparable_isPlain : ∀ k ∈ keyedRules, (∀ c, isPlain c = true → k.value c = true) ∨
    ∀ c, k.value c = true → isPlain c = true := by
  refine forall_mem_keyedRules_iff.mpr ⟨fun k mem => .inr fun c h => ?_,
    .inl fun _ => value_of_isPlain, .inl fun _ => value_of_isPlain⟩
  have solid := solid_of_mem k mem
  exact isPlain_iff.mpr ⟨solid.value c h, solid.unquoted c h⟩

/-- **Rules with a key spare each other's masks**, if one takes in the values of the other. -/
theorem spares_of_mem {k : Keyed} : ∀ k' ∈ keyedRules,
    ((∀ c, k.value c = true → k'.value c = true) ∨ ∀ c, k'.value c = true → k.value c = true) →
      k.Spares k'.Cuts := by
  have star : ∀ k ∈ keyedRules, k.value '*' = true → mask.all k.value = true := by decide
  intro k' mem comparable
  exact Keyed.Cuts.spares (regular_of_mem k' mem) (firm_of_mem k' mem)
    (fun h => List.all_eq_true.mp (star k' mem h)) comparable

/-! ## Addresses -/

theorem sign_of_match {rule : Rule} {veil : List Char} {Fits : (lead gone : List Char) → Prop}
    {before : Option Char} {m : Match} (cutting : Cutting rule (AddressCuts veil Fits))
    (found : rule before s = some m) : '@' ∈ s := by
  obtain ⟨_, _, _, _, _, -, cuts⟩ := cutting.veils found
  have sign := List.mem_of_head? cuts.sign
  simp [sign]

/-- **There are no addresses without an `@`.** -/
theorem replaceAll_address (absent : '@' ∉ s) :
    replaceAll databaseUrl s = s ∧ replaceAll email s = s := by
  have unmatched {rule : Rule} {veil : List Char} {Fits : (lead gone : List Char) → Prop}
      (cutting : Cutting rule (AddressCuts veil Fits)) : replaceAll rule s = s :=
    replaceFrom_eq_self (fun before u _ suffix => Option.eq_none_iff_forall_ne_some.mpr
      fun m found => absent (suffix.subset (sign_of_match cutting found))) none
  exact ⟨unmatched cutting_databaseUrl, unmatched cutting_email⟩

/-- No rule puts an `@` in. -/
theorem sign_not_mem (absent : '@' ∉ s) : ∀ rule ∈ rules, '@' ∉ replaceAll rule s := by
  intro rule mem
  obtain ⟨D, cutting⟩ := exists_cutting rule mem
  refine (passed_replaceFrom cutting.veils [] s).masked.not_mem ?_ absent
  rintro _ _ _ _ ⟨_, _, _, _, _, _, cut⟩
  have all : ∀ veil ∈ covers, '@' ∉ veil := by decide
  exact all _ (cutting.sealed cut).1

/-! ## Plain values -/

/-- The rules whose values are plain: they would mask their own masks. -/
def plainRules : List Keyed := [jwtSecret, password, passwordHash]

theorem plain_of_mem : ∀ k ∈ plainRules, k ∈ solidRules ∧ k.value = isPlain ∧
    k.Wide mask ∧ k.Wide compactMask := by
  have wide : ∀ k ∈ plainRules, mask.all k.value = true ∧ k.least ≤ mask.length ∧
      compactMask.all k.value = true ∧ k.least ≤ compactMask.length := by decide
  have mem : ∀ k ∈ plainRules, k ∈ solidRules ∧ k.value = isPlain := by
    simp only [plainRules, List.forall_mem_cons]
    refine ⟨⟨?_, rfl⟩, ⟨?_, rfl⟩, ⟨?_, rfl⟩, List.forall_mem_nil _⟩ <;>
      simp only [solidRules, List.mem_cons, eq_self, true_or, or_true]
  intro k hk
  obtain ⟨cover, long, cover', long'⟩ := wide k hk
  exact ⟨(mem k hk).1, (mem k hk).2, ⟨List.all_eq_true.mp cover, long⟩,
    List.all_eq_true.mp cover', long'⟩

/-- **A rule with plain values stays settled**, whatever rule comes. -/
theorem settled_of_mem {k : Keyed} (mem : k ∈ plainRules) (absent : '@' ∉ s)
    (h : Everywhere k.Settled none s) :
    ∀ rule ∈ rules, Everywhere k.Settled none (replaceAll rule s) := by
  obtain ⟨solid, plain, -⟩ := plain_of_mem k mem
  have regular := regular_of_mem k (mem_keyedRules solid)
  have outside := outside_of_mem k (mem_keyedRules solid)
  obtain ⟨database, email⟩ := replaceAll_address absent
  refine forall_mem_rules.mpr ⟨fun k' mem' => ?_, ?_, ?_, database.symm ▸ h, email.symm ▸ h⟩
  · exact Keyed.settled_replaceAll regular outside (Keyed.cutting (regular_of_mem k' mem'))
      (spares_of_mem k' mem' (plain ▸ comparable_isPlain k' mem')) h
  · exact Keyed.settled_replaceAll regular outside cutting_compactToken Keyed.spares_compactToken h
  · exact Keyed.settled_replaceAll regular outside cutting_bearer Keyed.spares_bearer h

/-- The rules but those for headers, which come last. -/
def textRules : List Rule :=
  [secretKey.rule, jwtSecret.rule, compactToken, bearer, accessToken.rule, refreshToken.rule,
    anyToken.rule, password.rule, passwordHash.rule, databaseUrl, email]

theorem forall_mem_textRules {P : Rule → Prop} : (∀ rule ∈ textRules, P rule) ↔
    (∀ k ∈ solidRules, P k.rule) ∧ P compactToken ∧ P bearer ∧ P databaseUrl ∧ P email := by
  simp only [solidRules, textRules, List.forall_mem_cons]
  constructor
  · rintro ⟨secret, jwt, compact, bearer, access, refresh, any, word, hash, database, email, none⟩
    exact ⟨⟨secret, jwt, access, refresh, any, word, hash, List.forall_mem_nil _⟩, compact, bearer,
      database, email⟩
  · rintro ⟨⟨secret, jwt, access, refresh, any, word, hash, -⟩, compact, bearer, database, email⟩
    exact ⟨secret, jwt, compact, bearer, access, refresh, any, word, hash, database, email,
      List.forall_mem_nil _⟩

/-- **A rule with plain values stays sure**, whatever rule comes before the ones for headers. -/
theorem sure_of_mem {k : Keyed} (mem : k ∈ plainRules) (absent : '@' ∉ s)
    (h : Everywhere k.Sure none s) :
    ∀ rule ∈ textRules, Everywhere k.Sure none (replaceAll rule s) := by
  obtain ⟨mem, -, wide, wide'⟩ := plain_of_mem k mem
  have regular := regular_of_mem k (mem_keyedRules mem)
  have outside := outside_of_mem k (mem_keyedRules mem)
  have solid := (solid_of_mem k mem).value
  obtain ⟨database, email⟩ := replaceAll_address absent
  refine forall_mem_textRules.mpr ⟨fun k' mem' => ?_, ?_, ?_, database.symm ▸ h, email.symm ▸ h⟩
  · have regular' := regular_of_mem k' (mem_keyedRules mem')
    have firm := firm_of_mem k' (mem_keyedRules mem')
    refine Keyed.sure_replaceAll regular outside (Keyed.cutting regular') solid
      (fun cuts => cuts.starts regular' firm) (fun cuts => ?_) (fun cuts => cuts.masked ▸ wide) h
    obtain ⟨c, head, value⟩ := (Keyed.Cuts.greedy regular').starts cuts
    exact ⟨c, head, (solid_of_mem k' mem').value c value⟩
  · exact Keyed.sure_replaceAll regular outside cutting_compactToken solid CompactCuts.starts
      (fun cuts => ⟨'e', cuts.letter, by decide⟩) (fun cuts => cuts.masked ▸ wide') h
  · refine Keyed.sure_replaceAll regular outside cutting_bearer solid BearerCuts.starts
      (fun cuts => ?_) (fun cuts => cuts.masked ▸ wide) h
    obtain ⟨c, u, rfl⟩ := List.exists_cons_of_length_pos (Nat.zero_lt_of_lt cuts.long)
    exact ⟨c, rfl, isBlank_of_isFoldedDottedChar c (cuts.inside c List.mem_cons_self)⟩

/-- **A rule with plain values is settled in the end**, if it has been sure of a text without an
`@`. -/
theorem settled_redactText {k : Keyed} (mem : k ∈ plainRules) (absent : '@' ∉ s)
    (sure : Everywhere k.Sure none s) : Everywhere k.Settled none (redactText s) := by
  obtain ⟨solid, -⟩ := plain_of_mem k mem
  have inside : k.rule ∈ textRules := (forall_mem_textRules.mp fun _ h => h).1 k solid
  obtain ⟨first, rest, split⟩ := List.append_of_mem inside
  have text : rules = first ++ k.rule :: (rest ++ [authorization.rule, cookie.rule]) := by
    rw [← List.cons_append, ← List.append_assoc, ← split]
    rfl
  rw [redactText, text, List.foldl_append, List.foldl_cons]
  obtain ⟨absent, sure⟩ := List.foldlRecOn
    (motive := fun s => '@' ∉ s ∧ Everywhere k.Sure none s) first
    (fun s rule => replaceAll rule s) ⟨absent, sure⟩ fun s h rule hr =>
      ⟨sign_not_mem h.1 rule (text ▸ by simp [hr]),
        sure_of_mem mem h.1 h.2 rule (split ▸ by simp [hr])⟩
  generalize first.foldl (fun s rule => replaceAll rule s) s = s at absent sure
  have regular := regular_of_mem k (mem_keyedRules solid)
  have quiet := Keyed.quiet regular (outside_of_mem k (mem_keyedRules solid)) s
  have settled : Everywhere k.Settled none (replaceAll k.rule s) :=
    quiet.imp₂ (sure_of_mem mem absent sure k.rule inside) Keyed.Quiet.settled
  have kept := List.foldlRecOn (motive := fun s => '@' ∉ s ∧ Everywhere k.Settled none s)
    (rest ++ [authorization.rule, cookie.rule]) (fun s rule => replaceAll rule s)
    ⟨sign_not_mem absent k.rule (text ▸ by simp), settled⟩ fun s h rule hr =>
      have later : rule ∈ rules := text ▸ List.mem_append_right _ (List.mem_cons_of_mem _ hr)
      ⟨sign_not_mem h.1 rule later, settled_of_mem mem h.1 h.2 rule later⟩
  exact kept.2

/-! ## Access tokens -/

theorem accessToken_mem : accessToken ∈ keyedRules := by
  refine mem_keyedRules ?_
  simp only [solidRules, List.mem_cons, eq_self, true_or, or_true]

/-- Neither blanks nor marks are part of an access token. -/
theorem isMark_of_accessToken {c : Char} (h : accessToken.value c = true) :
    isBlank c = false ∧ isMark c = false := by
  refine ⟨solid_accessToken.value c h, ?_⟩
  obtain dotted | star := (Bool.or_eq_true ..).mp h
  · exact (not_mark_of_isFoldedDottedChar (by simp [isFoldedDottedChar, dotted])).1
  · exact of_decide_eq_true star ▸ by decide

theorem spares_accessToken : accessToken.Spares accessToken.Cuts :=
  spares_of_mem _ accessToken_mem (.inl fun _ h => h)

/-- **An access token is longer than a mask.** -/
theorem not_wide_accessToken : ¬ accessToken.Wide mask := fun wide => absurd wide.2 (by decide)

theorem unmatched_replaceAll_accessToken (s : List Char) :
    Unmatched accessToken.rule none (replaceAll accessToken.rule s) := by
  have regular := regular_of_mem _ accessToken_mem
  refine (Keyed.quiet regular (outside_of_mem _ accessToken_mem) s).imp fun quiet => ?_
  obtain absent | done := quiet
  · exact absent
  · exact Option.eq_none_iff_forall_ne_some.mpr fun m found => not_wide_accessToken
      (done.idle regular (firm_of_mem _ accessToken_mem) spares_accessToken found).1

/-- The rules that come behind the one for access tokens. -/
def laterRules : List Rule :=
  [refreshToken.rule, anyToken.rule, password.rule, passwordHash.rule, databaseUrl, email,
    authorization.rule, cookie.rule]

/-- **No access token is made by a later rule**: a token of another kind would have been one before,
and everything else is masked behind a mark. -/
theorem unmatched_accessToken_of_mem (absent : '@' ∉ s) (h : Unmatched accessToken.rule none s) :
    ∀ rule ∈ laterRules, Unmatched accessToken.rule none (replaceAll rule s) := by
  have regular := regular_of_mem _ accessToken_mem
  have firm := firm_of_mem _ accessToken_mem
  have outside := outside_of_mem _ accessToken_mem
  have token : ∀ k ∈ [refreshToken, anyToken], k.Regular →
      Unmatched accessToken.rule none (replaceAll k.rule s) := by
    intro k mem regular'
    have cutting := Keyed.cutting regular'
    have within : k.value = isDottedChar ∧ k.least = 20 := by
      simp only [List.mem_cons, List.not_mem_nil, or_false] at mem
      obtain rfl | rfl := mem <;> exact ⟨rfl, rfl⟩
    refine Keyed.everywhere_replaceAll regular outside cutting (fun rest absent =>
      Keyed.rule_eq_none_of_wide regular (fun cuts => ⟨fun c mem => ?_, ?_⟩)
        (fun cuts => star_of_mem_covers (cutting.sealed cuts).1) absent rest)
      Keyed.rule_eq_none_of_afterSeparator? h
    · simp [accessToken, within.1 ▸ cuts.wide.1 c mem]
    · have long := cuts.wide.2
      rwa [within.2] at long
  have plain : ∀ k ∈ [password, passwordHash, authorization, cookie], ∀ c, isPlain c = true →
      k.value c = true := by
    simp only [List.forall_mem_cons]
    exact ⟨fun _ h => h, fun _ h => h, fun _ => value_of_isPlain, fun _ => value_of_isPlain,
      List.forall_mem_nil _⟩
  have marked : ∀ k ∈ [password, passwordHash, authorization, cookie], k.Regular →
      Unmatched accessToken.rule none (replaceAll k.rule s) := by
    intro k mem regular'
    refine Keyed.everywhere_replaceAll regular outside (Keyed.cutting regular') (fun rest absent =>
      Keyed.rule_eq_none_of_marks regular firm spares_accessToken not_wide_accessToken
        (fun _ value => isMark_of_accessToken value) regular' (fun c value => plain k mem c ?_)
        absent rest) Keyed.rule_eq_none_of_afterSeparator? h
    exact isPlain_iff.mpr ⟨solid_accessToken.value c value, solid_accessToken.unquoted c value⟩
  obtain ⟨database, email⟩ := replaceAll_address absent
  obtain ⟨-, -, -, refresh, any, word, hash, header, crumbs⟩ :=
    forall_mem_keyedRules.mp regular_of_mem
  simp only [laterRules, List.forall_mem_cons] at token marked ⊢
  exact ⟨token.1 refresh, token.2.1 any, marked.1 word, marked.2.1 hash, database.symm ▸ h,
    email.symm ▸ h, marked.2.2.1 header, marked.2.2.2.1 crumbs, List.forall_mem_nil _⟩

/-- **No access token is found in the end**, if there has been no `@`. -/
theorem unmatched_accessToken (absent : '@' ∉ s) :
    Unmatched accessToken.rule none (redactText s) := by
  have split : rules = [secretKey.rule, jwtSecret.rule, compactToken, bearer] ++
      accessToken.rule :: laterRules := rfl
  rw [redactText, split, List.foldl_append, List.foldl_cons]
  have absent := List.foldlRecOn (motive := fun s => '@' ∉ s)
    [secretKey.rule, jwtSecret.rule, compactToken, bearer] (fun s rule => replaceAll rule s) absent
    fun s h rule hr => sign_not_mem h rule (split ▸ List.mem_append_left _ hr)
  generalize [secretKey.rule, jwtSecret.rule, compactToken, bearer].foldl
    (fun s rule => replaceAll rule s) s = s at absent
  have mem {rule : Rule} (h : rule ∈ accessToken.rule :: laterRules) : rule ∈ rules :=
    split ▸ List.mem_append_right _ h
  have kept := List.foldlRecOn (motive := fun s => '@' ∉ s ∧ Unmatched accessToken.rule none s)
    laterRules (fun s rule => replaceAll rule s)
    ⟨sign_not_mem absent _ (mem List.mem_cons_self), unmatched_replaceAll_accessToken s⟩
    fun s h rule hr => ⟨sign_not_mem h.1 rule (mem (List.mem_cons_of_mem _ hr)),
      unmatched_accessToken_of_mem h.1 h.2 rule hr⟩
  exact kept.2

/-! ## What a second round changes -/

/-- **The rules for headers are quiet** in what is left of a message. -/
theorem quiet_redactText (text : List Char) :
    Everywhere authorization.Quiet none (redactText text) ∧
      Everywhere cookie.Quiet none (redactText text) := by
  have last : redactText text = replaceAll cookie.rule (replaceAll authorization.rule
      (textRules.foldl (fun s rule => replaceAll rule s) text)) := rfl
  obtain ⟨-, header, crumbs⟩ := forall_mem_keyedRules_iff.mp regular_of_mem
  obtain ⟨-, header', crumbs'⟩ := forall_mem_keyedRules_iff.mp outside_of_mem
  obtain ⟨-, -, mem⟩ := forall_mem_keyedRules_iff.mp fun _ h => h
  rw [last]
  refine ⟨?_, Keyed.quiet crumbs crumbs' _⟩
  exact Keyed.quiet_replaceAll header header' (Keyed.cutting crumbs)
    (spares_of_mem cookie mem (.inl fun _ h => h)) Keyed.Cuts.wide (Keyed.quiet header header' _)

/-- **Seven rules change nothing** in what is left of a message. -/
theorem replaceAll_redactText : ∀ rule ∈ [secretKey.rule, compactToken, bearer, refreshToken.rule,
    anyToken.rule, authorization.rule, cookie.rule], ∀ text,
    replaceAll rule (redactText text) = redactText text := by
  have found {rule : Rule} (h : ∀ text, Unmatched rule none (redactText text)) (text : List Char) :
      replaceAll rule (redactText text) = redactText text :=
    replaceFrom_of_idle ((h text).imp fun absent _ found => nomatch absent.symm.trans found)
  have quiet {k : Keyed} (mem : k ∈ keyedRules)
      (h : ∀ text, Everywhere k.Quiet none (redactText text)) (text : List Char) :
      replaceAll k.rule (redactText text) = redactText text :=
    replaceFrom_of_idle ((h text).imp (Keyed.Quiet.idle (regular_of_mem k mem) (firm_of_mem k mem)
      (spares_of_mem k mem (.inl fun _ h => h))))
  have unmatched := unmatched_redactText
  obtain ⟨-, header, crumbs⟩ := forall_mem_keyedRules_iff.mp fun _ h => h
  simp only [List.forall_mem_cons] at unmatched ⊢
  obtain ⟨secret, compact, bearer, refresh, any, -⟩ := unmatched
  exact ⟨found secret, found compact, found bearer, found refresh, found any,
    quiet header fun text => (quiet_redactText text).1,
    quiet crumbs fun text => (quiet_redactText text).2, List.forall_mem_nil _⟩

/-- **So a second round changes what the other six rules change.** -/
theorem redactText_redactText_iff {text : List Char} :
    redactText (redactText text) = redactText text ↔
      ∀ rule ∈ [jwtSecret.rule, accessToken.rule, password.rule, passwordHash.rule, databaseUrl,
        email], replaceAll rule (redactText text) = redactText text := by
  have seven := replaceAll_redactText
  rw [redactText_eq_self_iff, forall_mem_rules, forall_mem_keyedRules]
  simp only [List.forall_mem_cons] at seven ⊢
  obtain ⟨secret, compact, bearer, refresh, any, header, crumbs, -⟩ := seven
  constructor
  · rintro ⟨⟨-, jwt, access, -, -, word, hash, -, -⟩, -, -, database, email⟩
    exact ⟨jwt, access, word, hash, database, email, List.forall_mem_nil _⟩
  · rintro ⟨jwt, access, word, hash, database, email, -⟩
    exact ⟨⟨secret text, jwt, access, refresh text, any text, word, hash, header text, crumbs text⟩,
      compact text, bearer text, database, email⟩

theorem redact_eq_iff {message message' : String} :
    redact message = message' ↔ redactText message.toList = message'.toList := by
  rw [← String.toList_inj, toList_redact]

theorem toList_iterate_redact (message : String) (n : Nat) :
    (redact^[n] message).toList = redactText^[n] message.toList := by
  induction n with
  | zero => rfl
  | succ n ih => rw [Function.iterate_succ_apply', Function.iterate_succ_apply', toList_redact, ih]

/-- **When a second round changes nothing.** Seven of the rules never change what is left of a
message, so a second round changes nothing exactly if the other six rules change nothing. They do
not if the message has no `@`, and has a value that is long enough behind every key of a rule with
plain values. Whatever the message, it comes to rest after some rounds. -/
theorem redact_redact (message : String) :
    (∀ rule ∈ [secretKey.rule, compactToken, bearer, refreshToken.rule, anyToken.rule,
      authorization.rule, cookie.rule],
      replaceAll rule (redact message).toList = (redact message).toList) ∧
    (redact (redact message) = redact message ↔
      ∀ rule ∈ [jwtSecret.rule, accessToken.rule, password.rule, passwordHash.rule, databaseUrl,
        email], replaceAll rule (redact message).toList = (redact message).toList) ∧
    ('@' ∉ message.toList → (∀ k ∈ [jwtSecret, password, passwordHash], ∀ rest,
      rest <:+ message.toList → (k.afterSeparator? rest).isSome → (k.rule none rest).isSome) →
      redact (redact message) = redact message) ∧
    ∃ n ≤ 7 * message.length + 3, redact (redact^[n] message) = redact^[n] message := by
  have length : message.toList.length = message.length := String.length_toList
  simp only [redact_eq_iff, toList_iterate_redact, toList_redact, ← length]
  generalize message.toList = text
  refine ⟨fun rule mem => replaceAll_redactText rule mem text, redactText_redactText_iff,
    fun absent sure => redactText_redactText_iff.mpr ?_, ?_⟩
  · have settled : ∀ k ∈ plainRules, replaceAll k.rule (redactText text) = redactText text := by
      intro k mem
      obtain ⟨solid, plain, -⟩ := plain_of_mem k mem
      have mem' := mem_keyedRules solid
      have sure : Everywhere k.Sure none text :=
        everywhere_of_suffix fun _ u _ suffix => sure k mem u suffix
      have settled := settled_redactText mem absent sure
      exact replaceFrom_of_idle (settled.imp fun settled => settled.quiet.idle
        (regular_of_mem k mem') (firm_of_mem k mem') (spares_of_mem k mem' (.inl fun _ h => h)))
    have access := replaceFrom_of_idle ((unmatched_accessToken absent).imp
      fun absent _ found => nomatch absent.symm.trans found)
    have still := List.foldlRecOn (motive := fun s => '@' ∉ s) rules
      (fun s rule => replaceAll rule s) absent fun s h rule mem => sign_not_mem h rule mem
    obtain ⟨database, email⟩ := replaceAll_address (s := redactText text) still
    simp only [plainRules, List.forall_mem_cons] at settled ⊢
    exact ⟨settled.1, access, settled.2.1, settled.2.2.1, database, email, List.forall_mem_nil _⟩
  · obtain ⟨n, le, rest⟩ := exists_rounds text
    exact ⟨n, le.trans (freshness_le [] text), rest⟩

/-- A message with two secrets that are long enough is left alone by a second round. -/
theorem redact_redact_secrets :
    '@' ∉ "jwt_secret=0123456789 password=x".toList ∧
    (∀ k ∈ [jwtSecret, password, passwordHash], ∀ rest,
      rest <:+ "jwt_secret=0123456789 password=x".toList → (k.afterSeparator? rest).isSome →
      (k.rule none rest).isSome) ∧
    redact (redact "jwt_secret=0123456789 password=x") =
      redact "jwt_secret=0123456789 password=x" := by
  have absent : '@' ∉ "jwt_secret=0123456789 password=x".toList := by decide
  have found : ∀ k ∈ [jwtSecret, password, passwordHash],
      ∀ rest ∈ "jwt_secret=0123456789 password=x".toList.tails,
        (k.afterSeparator? rest).isSome → (k.rule none rest).isSome := by decide
  have sure : ∀ k ∈ [jwtSecret, password, passwordHash], ∀ rest,
      rest <:+ "jwt_secret=0123456789 password=x".toList → (k.afterSeparator? rest).isSome →
      (k.rule none rest).isSome :=
    fun k mem rest suffix => found k mem rest ((List.mem_tails ..).mpr suffix)
  exact ⟨absent, sure, (redact_redact "jwt_secret=0123456789 password=x").2.2.1 absent sure⟩

/-- **A second round may change the text.** A domain may be the name in front of the next `@`, so
the first round passes over an address. -/
theorem redact_redact_names_again :
    redact (redact "a@b.co@d.ee") ≠ redact "a@b.co@d.ee" := by
  decide

end LoginGate.Redact
