import LoginGate.Proofs.Redact.Leads
import LoginGate.Proofs.Redact.Secrets
import Mathlib.Data.List.Infix

/-!
# Proofs/Redact/Parts — what the thirteen rules take apart

Nine rules have a key and are taken apart alike. A bearer has a lead as well, a word and blanks, and
a value; a compact token is a piece as a whole. Of the password in a database address and the name
in an email address it is enough to know what stands behind them. What the rules have in common is
that one of three covers is put in place of a piece, and that no token goes on behind it
(`Cutting`).
-/

namespace LoginGate.Redact

open Text

variable {s r : List Char} {before : Option Char} {m : Match}

/-! ## Rules with a key -/

/-- The rules with a key. -/
def keyedRules : List Keyed :=
  [secretKey, jwtSecret, accessToken, refreshToken, anyToken, password, passwordHash, authorization,
    cookie]

theorem forall_mem_keyedRules {P : Keyed → Prop} : (∀ k ∈ keyedRules, P k) ↔ P secretKey ∧
    P jwtSecret ∧ P accessToken ∧ P refreshToken ∧ P anyToken ∧ P password ∧ P passwordHash ∧
      P authorization ∧ P cookie := by
  simp [keyedRules]

/-- **The thirteen rules**: those with a key, and four others. -/
theorem forall_mem_rules {P : Rule → Prop} : (∀ rule ∈ rules, P rule) ↔
    (∀ k ∈ keyedRules, P k.rule) ∧ P compactToken ∧ P bearer ∧ P databaseUrl ∧ P email := by
  rw [forall_mem_keyedRules]
  simp only [rules, List.forall_mem_cons]
  constructor
  · rintro ⟨secret, jwt, compact, bearer, access, refresh, any, word, hash, database, email, header,
      crumbs, -⟩
    exact ⟨⟨secret, jwt, access, refresh, any, word, hash, header, crumbs⟩, compact, bearer,
      database, email⟩
  · rintro ⟨⟨secret, jwt, access, refresh, any, word, hash, header, crumbs⟩, compact, bearer,
      database, email⟩
    exact ⟨secret, jwt, compact, bearer, access, refresh, any, word, hash, database, email, header,
      crumbs, List.forall_mem_nil _⟩

/-- **The rules with a key are regular.** -/
theorem regular_of_mem : ∀ k ∈ keyedRules, k.Regular := by
  have words : ∀ k ∈ keyedRules, k.words ≠ [] ∧ (∀ word ∈ k.words, word.toList ≠ [] ∧
      word.toList.all Char.isLower = true) ∧ 0 < k.least := by decide
  have separator : ∀ k ∈ keyedRules, ∀ c, k.separator c = true → isAssignment c = true := by
    have colon (c : Char) (h : isColon c = true) : isAssignment c = true := by
      simp [isAssignment, of_decide_eq_true h]
    exact forall_mem_keyedRules.mpr ⟨fun _ h => h, fun _ h => h, fun _ h => h, fun _ h => h,
      fun _ h => h, fun _ h => h, fun _ h => h, colon, colon⟩
  have value : ∀ k ∈ keyedRules, (∀ c, k.value c = true → isQuote c = false) ∧
      ∀ c, isTokenChar c = true → k.value c = true := by
    have plain : (∀ c, isPlain c = true → isQuote c = false) ∧
        ∀ c, isTokenChar c = true → isPlain c = true :=
      ⟨fun _ h => (isPlain_iff.mp h).2, fun _ h => isPlain_of_isTokenChar h⟩
    have dotted : (∀ c, isDottedChar c = true → isQuote c = false) ∧
        ∀ c, isTokenChar c = true → isDottedChar c = true :=
      ⟨fun c h => plain.1 c (isPlain_of_isDottedChar h), fun _ h => isDottedChar_of_isTokenChar h⟩
    have unquoted : (∀ c, (!isQuote c) = true → isQuote c = false) ∧
        ∀ c, isTokenChar c = true → (!isQuote c) = true := by
      refine ⟨fun c h => by simpa using h, fun c h => ?_⟩
      rw [plain.1 c (plain.2 c h)]
      rfl
    refine forall_mem_keyedRules.mpr ⟨⟨fun c h => plain.1 c (plain.2 c h), fun _ h => h⟩, plain,
      ⟨solid_accessToken.unquoted, fun c h => ?_⟩, dotted, dotted, plain, plain, unquoted, unquoted⟩
    simp [accessToken, dotted.2 c h]
  intro k mem
  obtain ⟨named, lower, least⟩ := words k mem
  exact ⟨named, lower, separator k mem, (value k mem).1, (value k mem).2, least⟩

/-! ## Bearers -/

/-- **What stands in front of a bearer**: the word, and blanks. -/
inductive IsBearer : List Char → Prop
  | mk {word gap : List Char} (letters : ∀ c ∈ word, isKeyChar c = true) (size : word.length = 6)
      (left : gap ≠ []) (blank : ∀ c ∈ gap, isBlank c = true)
      (read : ∀ r, afterWord? true "bearer".toList (word ++ r) = some r) : IsBearer (word ++ gap)

/-- What the rule for bearers takes apart. -/
structure BearerCuts (lead gone veil tail rest : List Char) : Prop where
  leads : IsBearer lead
  inside : ∀ c ∈ gone, isFoldedDottedChar c = true
  long : 20 ≤ gone.length
  masked : veil = mask
  tailless : tail = []
  stop : ∀ c ∈ rest.head?, isFoldedDottedChar c = false

theorem veils_bearer (h : bearer before s = some m) : Veils BearerCuts s m := by
  unfold bearer at h
  split at h
  · exact nomatch h
  next rest found =>
  obtain ⟨word, rfl, size, letters, read⟩ := afterWord?_eq_some (by decide) found
  obtain ⟨gap, body, rfl, white⟩ := exists_spans isBlank rest
  obtain ⟨gone, after, rfl, value⟩ := exists_spans isFoldedDottedChar body
  simp only [white.dropWhile_eq, value.takeWhile_eq] at h
  split at h
  · next long =>
    obtain rfl := Option.some.inj h
    have left : gap ≠ [] := by
      rintro rfl
      exact Nat.lt_irrefl _ long.1
    have some : gone ≠ [] := by
      rintro rfl
      exact absurd long.2 (by decide)
    have veils := Veils.mk (D := BearerCuts) (word ++ gap) gone mask [] after some
      ⟨.mk letters size left white.inside read, value.inside, long.2, rfl, rfl, value.stop⟩
    have shown : (word ++ (gap ++ (gone ++ after))).length -
        ((gone ++ after).length - gone.length) = (word ++ gap ++ gone).length := by
      simp only [List.length_append]
      omega
    have front : (word ++ (gap ++ (gone ++ after))).take
        ((word ++ (gap ++ (gone ++ after))).length - (gone ++ after).length) = word ++ gap := by
      rw [← List.append_assoc, List.length_append, Nat.add_sub_cancel, List.take_left]
    rw [shown, front]
    simpa using veils
  · exact nomatch h

/-- **The rule for bearers reads leads and values.** -/
theorem reads_bearer : Reads bearer IsBearer isFoldedDottedChar 20 where
  parts h := by
    obtain ⟨m, found⟩ := Option.isSome_iff_exists.mp h
    obtain @⟨lead, gone, veil, tail, rest, -, cuts⟩ := veils_bearer found
    exact ⟨lead, gone, tail ++ rest, rfl, cuts.leads, cuts.inside, cuts.long⟩
  isSome leads inside long before z := by
    obtain @⟨word, gap, letters, size, left, blank, read⟩ := leads
    obtain ⟨c, u, rfl⟩ := List.exists_cons_of_length_pos (Nat.zero_lt_of_lt long)
    have white : Spans isBlank gap (c :: u ++ z) := by
      refine ⟨blank, fun d head => ?_⟩
      obtain rfl : c = d := Option.some.inj head
      exact isBlank_of_isFoldedDottedChar c (inside c List.mem_cons_self)
    have blanks : (c :: u ++ z).length < (gap ++ (c :: u ++ z)).length := by
      have := List.length_pos_iff.mpr left
      simp only [List.length_append]
      omega
    unfold bearer
    rw [List.append_assoc, read]
    simp only [white.dropWhile_eq, blanks, long.trans (length_le_takeWhile inside z), and_self,
      if_true, Option.isSome_some]
  starless leads := by
    obtain @⟨word, gap, letters, size, left, blank, read⟩ := leads
    refine List.not_mem_append (fun mem => ?_) fun mem => absurd (blank _ mem) (by decide)
    exact (not_mark_of_isFoldedDottedChar (isFoldedDottedChar_of_isKeyChar (letters _ mem))).2 rfl

/-! ## Compact tokens -/

/-- **A part of a compact token**: not empty, and of the characters of tokens. -/
def TokenPart (a : List Char) : Prop := a ≠ [] ∧ ∀ c ∈ a, isTokenChar c = true

theorem afterPart?_eq_some_iff :
    afterPart? s = some r ↔ ∃ a, TokenPart a ∧ s = a ++ '.' :: r := by
  constructor
  · intro h
    obtain ⟨a, rest, rfl, token⟩ := exists_spans isTokenChar s
    rw [afterPart?, token.dropWhile_eq] at h
    split at h
    · next some =>
      rw [afterDot?_eq] at h
      obtain rfl := eq_append_of_afterWord? h
      refine ⟨a, ⟨?_, token.inside⟩, rfl⟩
      rintro rfl
      exact Nat.lt_irrefl _ some
    · cases h
  · rintro ⟨a, ⟨some, inside⟩, rfl⟩
    have token : Spans isTokenChar a ('.' :: r) := ⟨inside, by simp; decide⟩
    have longer : ('.' :: r).length < (a ++ '.' :: r).length := by
      have := List.length_pos_iff.mpr some
      rw [List.length_append]
      omega
    rw [afterPart?, token.dropWhile_eq, if_pos longer, afterDot?]

/-- **Where a compact token starts.** -/
theorem compactToken_isSome_iff : (compactToken before s).isSome ↔
    isWordBoundary before (some 'e') = true ∧ ∃ a b back, TokenPart a ∧ TokenPart b ∧
      s = "eyJ".toList ++ (a ++ '.' :: (b ++ '.' :: back)) := by
  rw [compactToken_eq]
  by_cases boundary : isWordBoundary before (some 'e') = true
  · rw [if_pos boundary, Option.isSome_map]
    simp only [boundary, true_and]
    constructor
    · intro h
      obtain ⟨r, read⟩ := Option.isSome_iff_exists.mp h
      obtain ⟨rest, word, compact⟩ := Option.bind_eq_some_iff.mp read
      obtain ⟨tail, parts, -⟩ := Option.bind_eq_some_iff.mp compact
      obtain ⟨body, first, second⟩ := Option.bind_eq_some_iff.mp parts
      obtain ⟨a, ha, rfl⟩ := afterPart?_eq_some_iff.mp first
      obtain ⟨b, hb, rfl⟩ := afterPart?_eq_some_iff.mp second
      exact ⟨a, b, tail, ha, hb, eq_append_of_afterWord? word⟩
    · rintro ⟨a, b, back, ha, hb, rfl⟩
      have first := afterPart?_eq_some_iff.mpr ⟨a, ha, (rfl : a ++ '.' :: (b ++ '.' :: back) = _)⟩
      have second := afterPart?_eq_some_iff.mpr ⟨b, hb, (rfl : b ++ '.' :: back = _)⟩
      simp [compactRest?, afterCompact?, afterWord?, first, second]
  · simp [boundary]

/-- What the rule for compact tokens takes apart: a token without a lead and a tail. -/
structure CompactCuts (lead gone veil tail rest : List Char) : Prop where
  leadless : lead = []
  letter : 'e' ∈ gone.head?
  dot : '.' ∈ gone
  dotted : ∀ c ∈ gone, isDottedChar c = true
  masked : veil = compactMask
  tailless : tail = []
  stop : ∀ c ∈ rest.head?, isTokenChar c = false

theorem veils_compactToken (h : compactToken before s = some m) : Veils CompactCuts s m := by
  obtain ⟨rest, r, rfl, compact, rfl⟩ := compactToken_eq_some h
  obtain ⟨tail, parts, last⟩ := Option.bind_eq_some_iff.mp compact
  obtain ⟨body, first, second⟩ := Option.bind_eq_some_iff.mp parts
  obtain ⟨a, ha, rfl⟩ := afterPart?_eq_some_iff.mp first
  obtain ⟨b, hb, rfl⟩ := afterPart?_eq_some_iff.mp second
  obtain ⟨u, after, rfl, token⟩ := exists_spans isTokenChar tail
  rw [token.dropWhile_eq] at last
  obtain rfl := Option.some.inj last
  have dotted : ∀ c ∈ "eyJ".toList ++ (a ++ '.' :: (b ++ '.' :: u)), isDottedChar c = true := by
    have part {l : List Char} (h : ∀ c ∈ l, isTokenChar c = true) :
        ∀ c ∈ l, isDottedChar c = true :=
      fun c mem => isDottedChar_of_isTokenChar (h c mem)
    refine List.forall_mem_append.mpr ⟨List.all_eq_true.mp (by decide), ?_⟩
    refine List.forall_mem_append.mpr ⟨part ha.2, List.forall_mem_cons.mpr ⟨by decide, ?_⟩⟩
    exact List.forall_mem_append.mpr ⟨part hb.2, List.forall_mem_cons.mpr ⟨by decide,
      part token.inside⟩⟩
  have veils := Veils.mk (D := CompactCuts) [] ("eyJ".toList ++ (a ++ '.' :: (b ++ '.' :: u)))
    compactMask [] after (by simp) ⟨rfl, rfl, by simp, dotted, rfl, rfl, token.stop⟩
  have shown : ("eyJ".toList ++ (a ++ '.' :: (b ++ '.' :: (u ++ after)))).length - after.length =
      ("eyJ".toList ++ (a ++ '.' :: (b ++ '.' :: u))).length := by
    simp only [List.length_append, List.length_cons]
    omega
  rw [shown]
  simpa only [List.append_assoc, List.cons_append, List.nil_append, List.append_nil] using veils

/-! ## Addresses -/

theorem afterDriver_suffix (s : List Char) : afterDriver s <:+ s := by
  unfold afterDriver
  split
  · next rest =>
    dsimp only
    split
    · exact (List.dropWhile_suffix isWord).trans (List.suffix_cons '+' rest)
    · exact List.suffix_rfl
  · exact List.suffix_rfl

theorem afterScheme?_suffix (h : afterScheme? s = some r) : r <:+ s := by
  unfold afterScheme? at h
  split at h
  · next rest word =>
    obtain rfl := Option.some.inj h
    refine (afterDriver_suffix _).trans (List.IsSuffix.trans ?_ (afterWord?_suffix word))
    cases found : afterWord? false "ql".toList rest with
    | none => exact List.suffix_rfl
    | some r => exact afterWord?_suffix found
  · obtain ⟨rest, word, rfl⟩ := Option.map_eq_some_iff.mp h
    exact (afterDriver_suffix rest).trans (afterWord?_suffix word)

/-- **An address is taken apart** in front of an `@`, and where it fits to what is around. -/
structure AddressCuts (veil : List Char) (Fits : (lead gone : List Char) → Prop)
    (lead gone veil' tail _rest : List Char) : Prop where
  masked : veil' = veil
  sign : '@' ∈ tail.head?
  left : gone ≠ []
  fits : Fits lead gone

/-- The password in a database address stands behind a colon. -/
def IsPassword (lead _gone : List Char) : Prop := lead.getLast? = some ':'

/-- The name in an email address. -/
def IsName (_lead gone : List Char) : Prop := ∀ c ∈ gone, isLocalChar c = true

/-- A database address has its password between a colon and an `@`, and nothing else is lost. -/
theorem databaseUrl_eq_some (h : databaseUrl before s = some m) : ∃ lead gone after,
    s = lead ++ (gone ++ '@' :: after) ∧ lead.getLast? = some ':' ∧ gone ≠ [] ∧
      m = ⟨(lead ++ (gone ++ ['@'])).length, lead ++ (mask ++ ['@'])⟩ := by
  unfold databaseUrl at h
  split at h
  · exact nomatch h
  next rest scheme =>
  split at h
  · exact nomatch h
  next address slashes =>
  simp only at h
  split at h
  · exact nomatch h
  next c secret atColon =>
  split at h
  · exact nomatch h
  next after sign =>
  split at h
  · next long =>
    obtain rfl := Option.some.inj h
    obtain rfl : c = ':' := by
      have stop := List.head?_dropWhile_not (fun c => decide (c ≠ ':')) address
      rw [atColon] at stop
      simpa using stop
    have suffix : ':' :: secret <:+ s := (atColon ▸ List.dropWhile_suffix _).trans
      ((afterWord?_suffix slashes).trans (afterScheme?_suffix scheme))
    obtain ⟨front, rfl⟩ := suffix
    generalize whole : front ++ [':'] = lead
    rw [List.append_cons, whole]
    obtain ⟨gone, rest, rfl, value⟩ := exists_spans (fun c => c ≠ '@') secret
    simp only [value.dropWhile_eq] at sign
    subst sign
    obtain rfl := not_not.mp (of_decide_eq_false (value.stop _ rfl))
    have left : gone ≠ [] := by
      rintro rfl
      simp only [value.dropWhile_eq] at long
      exact Nat.lt_irrefl _ long.2
    refine ⟨lead, gone, after, rfl, whole ▸ List.getLast?_concat, left, ?_⟩
    have shown : (lead ++ (gone ++ '@' :: after)).length - after.length =
        (lead ++ (gone ++ ['@'])).length := by
      simp only [List.length_append, List.length_cons, List.length_nil]
      omega
    have front : (lead ++ (gone ++ '@' :: after)).take
        ((lead ++ (gone ++ '@' :: after)).length - (gone ++ '@' :: after).length) = lead := by
      rw [List.length_append, Nat.add_sub_cancel, List.take_left]
    rw [shown, front, List.append_assoc]
  · exact nomatch h

theorem veils_databaseUrl (h : databaseUrl before s = some m) :
    Veils (AddressCuts mask IsPassword) s m := by
  obtain ⟨lead, gone, after, rfl, colon, left, rfl⟩ := databaseUrl_eq_some h
  exact Veils.mk lead gone mask ['@'] after left ⟨rfl, rfl, left, colon⟩

theorem domainSize?_le {n : Nat} (h : domainSize? s = some n) : n ≤ s.length := by
  induction s generalizing n with
  | nil => exact nomatch h
  | cons c s ih =>
    unfold domainSize? at h
    split at h
    · split at h
      · next n' inner =>
        obtain rfl := Option.some.inj h
        exact Nat.succ_le_succ (ih inner)
      · split at h
        · next tail none =>
          dsimp only at h
          split at h
          · obtain rfl := Option.some.inj h
            have := (List.takeWhile_prefix (l := tail) Char.isAlpha).length_le
            simp only [List.length_cons]
            omega
          · exact nomatch h
        · exact nomatch h
    · exact nomatch h

theorem veils_email (h : email before s = some m) :
    Veils (AddressCuts "***".toList IsName) s m := by
  obtain ⟨name, rest, rfl, local'⟩ := exists_spans isLocalChar s
  unfold email at h
  simp only [local'.dropWhile_eq] at h
  split at h
  · next domain =>
    split at h
    · next long =>
      split at h
      · next n size =>
        obtain rfl := Option.some.inj h
        have left : name ≠ [] := by
          rintro rfl
          exact Nat.lt_irrefl _ long
        have inside := domainSize?_le size
        have veils := Veils.mk (D := AddressCuts "***".toList IsName) [] name "***".toList
          ('@' :: domain.take n) (domain.drop n) left ⟨rfl, rfl, left, local'.inside⟩
        have shown : (name ++ '@' :: domain).length - domain.length + n =
            (name ++ '@' :: domain.take n).length := by
          simp only [List.length_append, List.length_cons, List.length_take]
          omega
        have joined : "***@".toList ++ domain.take n = "***".toList ++ '@' :: domain.take n := by
          simp
        rw [shown, joined]
        simpa only [List.cons_append, List.nil_append, List.take_append_drop] using veils
      · exact nomatch h
    · exact nomatch h
  · exact nomatch h

/-! ## What all rules have in common -/

/-- What may be put in place of a piece. -/
def covers : List (List Char) := [mask, compactMask, "***".toList]

/-- Every cover starts with a star. -/
theorem star_of_mem_covers {veil : List Char} (h : veil ∈ covers) : ∃ x, veil = '*' :: x := by
  have all : ∀ veil ∈ covers, veil.head? = some '*' := by decide
  obtain ⟨x, split⟩ := List.head?_eq_some_iff.mp (all veil h)
  exact ⟨x, split⟩

/-- And every cover ends with one. -/
theorem exists_star_of_suffix {veil u : List Char} (h : veil ∈ covers) (left : u ≠ [])
    (suffix : u <:+ veil) : ∃ x, u = u.takeWhile (· ≠ '*') ++ '*' :: x := by
  have all : ∀ veil ∈ covers, veil.getLast? = some '*' := by decide
  obtain ⟨front, rfl⟩ := suffix
  have last := List.getLast?_eq_some_getLast left
  have star : '*' ∈ u := by
    have ends := all _ h
    rw [List.getLast?_append, last, Option.some_or] at ends
    exact Option.some.inj ends ▸ List.getLast_mem left
  cases rest : u.dropWhile (· ≠ '*') with
  | nil => exact absurd rfl (of_decide_eq_true (List.dropWhile_eq_nil_iff.mp rest '*' star))
  | cons c x =>
    have stop := List.head?_dropWhile_not (fun c => decide (c ≠ '*')) u
    rw [rest] at stop
    obtain rfl : c = '*' := by simpa using stop
    exact ⟨x, by rw [← rest, List.takeWhile_append_dropWhile]⟩

/-- **A rule with a key is outside** of what may be put in, if its key with a separator does not
stand in it up to a star. -/
def Keyed.Outside (k : Keyed) : Prop :=
  ∀ veil ∈ covers, ∀ u ∈ veil.tails, k.afterSeparator? (u.takeWhile (· ≠ '*')) = none

theorem Keyed.Outside.afterSeparator?_eq_none {k : Keyed} (outside : k.Outside)
    (regular : k.Regular) {veil u : List Char} (mem : veil ∈ covers) (left : u ≠ [])
    (suffix : u <:+ veil) (s : List Char) : k.afterSeparator? (u ++ s) = none := by
  obtain ⟨x, split⟩ := exists_star_of_suffix mem left suffix
  refine Option.not_isSome_iff_eq_none.mp fun read => ?_
  rw [split, List.append_assoc, List.cons_append] at read
  have early := isSome_afterSeparator? regular read []
  rw [List.append_nil, outside veil mem u ((List.mem_tails ..).mpr suffix)] at early
  exact nomatch early

/-- **No key stands in what may be put in.** -/
theorem outside_of_mem : ∀ k ∈ keyedRules, k.Outside := by
  unfold Keyed.Outside
  decide

/-- **A rule cuts**: its matches are taken apart in one way, and what is veiled is sealed. -/
structure Cutting (rule : Rule) (D : Cut) : Prop where
  veils : ∀ {before s m}, rule before s = some m → Veils D s m
  sealed : ∀ {lead gone veil tail rest}, D lead gone veil tail rest →
    veil ∈ covers ∧ Seam (tail ++ rest)

theorem Keyed.cutting {k : Keyed} (regular : k.Regular) : Cutting k.rule k.Cuts where
  veils := veils_rule regular
  sealed cuts := by
    refine ⟨cuts.masked ▸ by decide, fun c head => Bool.eq_false_iff.mpr fun token => ?_⟩
    exact nomatch (cuts.stop c head).symm.trans (regular.tokens c token)

theorem cutting_bearer : Cutting bearer BearerCuts where
  veils := veils_bearer
  sealed cuts := by
    refine ⟨cuts.masked ▸ by decide, fun c head => Bool.eq_false_iff.mpr fun token => ?_⟩
    obtain rfl := cuts.tailless
    have folded := isFoldedDottedChar_of_isKeyChar (isKeyChar_of_isTokenChar token)
    exact nomatch (cuts.stop c head).symm.trans folded

theorem cutting_compactToken : Cutting compactToken CompactCuts where
  veils := veils_compactToken
  sealed cuts := by
    refine ⟨cuts.masked ▸ by decide, ?_⟩
    obtain rfl := cuts.tailless
    exact cuts.stop

theorem AddressCuts.sealed {Fits : (lead gone : List Char) → Prop}
    {lead gone veil veil' tail rest : List Char} (mem : veil ∈ covers)
    (cuts : AddressCuts veil Fits lead gone veil' tail rest) :
    veil' ∈ covers ∧ Seam (tail ++ rest) := by
  obtain ⟨u, rfl⟩ := List.head?_eq_some_iff.mp cuts.sign
  refine ⟨cuts.masked ▸ mem, fun c head => ?_⟩
  obtain rfl : '@' = c := Option.some.inj head
  decide

theorem cutting_databaseUrl : Cutting databaseUrl (AddressCuts mask IsPassword) :=
  ⟨veils_databaseUrl, AddressCuts.sealed (by decide)⟩

theorem cutting_email : Cutting email (AddressCuts "***".toList IsName) :=
  ⟨veils_email, AddressCuts.sealed (by decide)⟩

/-- **Every rule cuts.** -/
theorem exists_cutting : ∀ rule ∈ rules, ∃ D, Cutting rule D := by
  have keyed : ∀ k ∈ keyedRules, ∃ D, Cutting k.rule D :=
    fun k mem => ⟨k.Cuts, Keyed.cutting (regular_of_mem k mem)⟩
  exact forall_mem_rules.mpr ⟨keyed, ⟨_, cutting_compactToken⟩, ⟨_, cutting_bearer⟩,
    ⟨_, cutting_databaseUrl⟩, ⟨_, cutting_email⟩⟩

end LoginGate.Redact
