import LoginGate.Proofs.Redact.Parts

/-!
# Proofs/Redact/Starless — rules that find nothing in what is masked

Everything that is put in place of a piece starts with a star, and five rules find no match with a
star in it. Whether such a rule matches at a place depends on the text up to the first star alone,
so a pass that masks something further on makes no match. A pass of the rule itself leaves none, and
so there is none in the end, whatever the later rules have cut and put together.
-/

namespace LoginGate.Redact

open Text

variable {rule : Rule} {D : Cut} {left s t : List Char} {before : Option Char}

/-- **A rule is starless**: a match in front of a star is there whatever follows, what stands before
makes a difference to a token only, a match starts with a letter, and none starts in a cover. -/
structure Starless (rule : Rule) : Prop where
  early : ∀ {before v x}, (rule before (v ++ '*' :: x)).isSome → ∀ y, (rule before (v ++ y)).isSome
  blind : ∀ {c}, isTokenChar c = false → ∀ before before' s,
    rule before (c :: s) = rule before' (c :: s)
  letter : ∀ {before c s}, (rule before (c :: s)).isSome → isKeyChar c = true
  outside : ∀ cover ∈ covers, ∀ u, u ≠ [] → u <:+ cover → ∀ before s, rule before (u ++ s) = none

/-- **A rule matches nowhere** in a text. -/
abbrev Unmatched (rule : Rule) : Option Char → List Char → Prop :=
  Everywhere fun before s => rule before s = none

/-- No match is made by what is masked further on. -/
theorem Starless.eq_none_of_masked (starless : Starless rule) {c : Char}
    (covered : ∀ {lead gone veil tail rest}, D lead gone veil tail rest → veil ∈ covers)
    (rest : Masked (pieces D) (left ++ [c]) s t) {before' : Option Char}
    (seam : before' = before ∨ isTokenChar c = false) (absent : rule before (c :: s) = none) :
    rule before' (c :: t) = none := by
  have blind : rule before' (c :: t) = rule before (c :: t) := by
    obtain rfl | seam := seam
    · rfl
    · exact starless.blind seam before' before t
  rw [blind]
  obtain rfl | ⟨v, gone, veil, s, t, rfl, rfl, ⟨_, _, _, _, _, _, cut⟩, -⟩ := rest.split
  · exact absent
  · obtain ⟨x, rfl⟩ := star_of_mem_covers (covered cut)
    refine Option.eq_none_iff_forall_ne_some.mpr fun m found => ?_
    have early := starless.early (v := c :: v) (x := x ++ t)
      (Option.isSome_iff_exists.mpr ⟨m, found⟩)
    exact absurd (early (gone ++ s)) (by simp [absent])

/-- **A pass makes no match** for a starless rule. -/
theorem Starless.unmatched_of_cutting (starless : Starless rule) {other : Rule}
    (cutting : Cutting other D) (h : Unmatched rule none s) :
    Unmatched rule none (replaceAll other s) := by
  refine (passed_replaceFrom cutting.veils [] s).masked.everywhere h (.inl rfl) ?_
    (fun rest seam absent => starless.eq_none_of_masked (fun cut => (cutting.sealed cut).1) rest
      seam absent) ?_
  · rintro _ _ _ _ ⟨_, _, _, _, _, rfl, cut⟩
    exact (cutting.sealed cut).2
  · rintro _ _ _ _ _ u _ ⟨_, _, _, _, _, _, cut⟩ left suffix
    exact starless.outside _ (cutting.sealed cut).1 u left suffix _ _

/-- **A pass of a starless rule leaves no match**, if there is none in a lead alone, and its tails
are no letters. -/
theorem Starless.unmatched (starless : Starless rule) (cutting : Cutting rule D)
    (opening : ∀ {lead gone veil tail rest}, D lead gone veil tail rest → ∀ u, u ≠ [] →
      u <:+ lead → ∀ before, rule before u = none)
    (closing : ∀ {lead gone veil tail rest}, D lead gone veil tail rest →
      ∀ c ∈ tail, isKeyChar c = false) (s : List Char) :
    Unmatched rule none (replaceAll rule s) := by
  refine (passed_replaceFrom cutting.veils [] s).everywhere (.inl rfl)
    (fun cut => (cutting.sealed cut).2)
    (fun rest seam absent => starless.eq_none_of_masked (fun cut => (cutting.sealed cut).1)
      rest.masked seam absent) ?_
    (fun cut left suffix => starless.outside _ (cutting.sealed cut).1 _ left suffix _ _) ?_
  · intro left lead gone veil tail s t before u cut _ some suffix
    obtain ⟨x, rfl⟩ := star_of_mem_covers (cutting.sealed cut).1
    refine Option.eq_none_iff_forall_ne_some.mpr fun m found => ?_
    have early := starless.early (v := u) (x := x ++ (tail ++ t))
      (Option.isSome_iff_exists.mpr ⟨m, found⟩) []
    rw [List.append_nil, opening cut u some suffix before] at early
    exact nomatch early
  · intro lead gone veil tail s t before u cut some suffix
    obtain ⟨c, u, rfl⟩ := List.exists_cons_of_ne_nil some
    refine Option.eq_none_iff_forall_ne_some.mpr fun m found => ?_
    have letter := starless.letter (Option.isSome_iff_exists.mpr ⟨m, found⟩)
    exact nomatch (closing cut c (suffix.subset List.mem_cons_self)).symm.trans letter

/-- **A starless rule matches nowhere** once its own pass is followed by others. -/
theorem Starless.unmatched_foldl (starless : Starless rule)
    (own : ∀ s, Unmatched rule none (replaceAll rule s)) {first rest : List Rule}
    (cutting : ∀ other ∈ rest, ∃ D, Cutting other D) (s : List Char) :
    Unmatched rule none ((first ++ rule :: rest).foldl (fun s rule => replaceAll rule s) s) := by
  rw [List.foldl_append, List.foldl_cons]
  generalize first.foldl (fun s rule => replaceAll rule s) s = s
  have start := own s
  generalize replaceAll rule s = s at start
  induction rest generalizing s with
  | nil => exact start
  | cons other rest ih =>
    obtain ⟨⟨D, first⟩, cutting⟩ := List.forall_mem_cons.mp cutting
    exact ih cutting _ (starless.unmatched_of_cutting first start)

/-! ## The rules without stars -/

theorem not_letter_of_isQuote {c : Char} (h : isQuote c = true) : isKeyChar c = false := by
  refine Bool.eq_false_iff.mpr fun letter => ?_
  have unmarked := (not_mark_of_isFoldedDottedChar (isFoldedDottedChar_of_isKeyChar letter)).1
  simp [isMark, h] at unmarked

namespace Keyed
variable {k : Keyed}

theorem starless (regular : k.Regular) {word : String} {words : List String}
    (first : k.words = word :: words)
    (clashes : ∀ cover ∈ covers, Clashes k.foldCase word.toList cover)
    (stars : k.value '*' = false) : Starless k.rule where
  early := (reads regular).early stars
  blind _ _ _ _ := rfl
  letter {_ c s} h := by
    have read : (k.afterSeparator? (c :: s)).isSome := by
      refine Option.isSome_iff_ne_none.mpr fun absent => ?_
      rw [rule_eq_none_of_afterSeparator? absent] at h
      exact nomatch h
    exact isKeyChar_of_afterSeparator? regular read
  outside cover mem u left suffix before s :=
    rule_eq_none_of_clashes first (clashes cover mem) left suffix s

/-- There is no value in a lead. -/
theorem IsLead.rule_eq_none (regular : k.Regular)
    (solid : ∀ c, k.value c = true → isBlank c = false) {lead u : List Char} (leads : k.IsLead lead)
    (suffix : u <:+ lead) (before : Option Char) : k.rule before u = none := by
  obtain ⟨front, rfl⟩ := suffix
  refine Option.eq_none_iff_forall_ne_some.mpr fun m found => ?_
  obtain ⟨lead, gone, z, rfl, @⟨key, gap, c, blanks, quote, opens, -, -, -⟩, inside, long⟩ :=
    (reads regular).parts (Option.isSome_iff_exists.mpr ⟨m, found⟩)
  obtain ⟨d, gone, rfl⟩ := List.exists_cons_of_length_pos (Nat.lt_of_lt_of_le regular.least long)
  obtain ⟨blanks', quote', split, blank, quoted, -⟩ := leads.of_assignment
    (x := front ++ (key ++ gap)) (c := c) (y := blanks ++ quote ++ (d :: gone ++ z)) (by simp)
    opens.separates
  have value := inside d List.mem_cons_self
  have mem : d ∈ blanks' ++ quote' := split ▸ by simp
  obtain white | quote := List.mem_append.mp mem
  · exact nomatch (solid d value).symm.trans (blank d white)
  · exact nomatch (regular.unquoted d value).symm.trans (quoted d quote)

/-- **A rule with a key but no stars** leaves no match. -/
theorem unmatched (regular : k.Regular) (solid : ∀ c, k.value c = true → isBlank c = false)
    (starless : Starless k.rule) (s : List Char) : Unmatched k.rule none (replaceAll k.rule s) :=
  starless.unmatched (cutting regular)
    (fun cuts _ _ suffix before => cuts.leads.rule_eq_none regular solid suffix before)
    (fun cuts c mem => not_letter_of_isQuote (cuts.quoted c mem)) s

end Keyed

theorem starless_bearer : Starless bearer where
  early := reads_bearer.early (by decide)
  blind _ _ _ _ := rfl
  letter h := by
    obtain ⟨lead, gone, z, split, @⟨word, gap, letters, size, -, -, -⟩, -⟩ := reads_bearer.parts h
    obtain ⟨e, word, rfl⟩ := List.exists_cons_of_length_eq_add_one size
    obtain ⟨rfl, -⟩ := List.cons_eq_cons.mp split
    exact letters _ List.mem_cons_self
  outside cover mem u left suffix before s := by
    have clashes : ∀ cover ∈ covers, Clashes true "bearer".toList cover := by decide
    unfold bearer
    rw [(clashes cover mem).afterWord?_eq_none left suffix s]

/-- There are six letters in the lead of a bearer. -/
theorem IsBearer.rule_eq_none {lead u : List Char} (leads : IsBearer lead) (suffix : u <:+ lead)
    (before : Option Char) : bearer before u = none := by
  refine Option.eq_none_iff_forall_ne_some.mpr fun m found => ?_
  obtain ⟨lead', gone, z, rfl, -, inside, long⟩ :=
    reads_bearer.parts (Option.isSome_iff_exists.mpr ⟨m, found⟩)
  have part : gone.Sublist lead :=
    ((List.sublist_append_left gone z).trans (List.sublist_append_right lead' _)).trans
      suffix.sublist
  obtain @⟨word, gap, letters, size, -, blank, -⟩ := leads
  have solid : gone.filter (fun c => !isBlank c) = gone := List.filter_eq_self.mpr fun c mem => by
    rw [isBlank_of_isFoldedDottedChar c (inside c mem)]
    rfl
  have blanks : gap.filter (fun c => !isBlank c) = [] := List.filter_eq_nil_iff.mpr fun c mem => by
    simp [blank c mem]
  have bound := (part.filter fun c => !isBlank c).length_le
  have letters := List.length_filter_le (fun c => !isBlank c) word
  rw [solid, List.filter_append, blanks, List.append_nil] at bound
  omega

theorem unmatched_bearer (s : List Char) : Unmatched bearer none (replaceAll bearer s) :=
  starless_bearer.unmatched cutting_bearer
    (fun cuts _ _ suffix before => cuts.leads.rule_eq_none suffix before)
    (fun cuts _ mem => absurd (cuts.tailless ▸ mem) List.not_mem_nil) s

theorem starless_compactToken : Starless compactToken where
  early {before v x} h y := by
    obtain ⟨boundary, a, b, back, ha, hb, split⟩ := compactToken_isSome_iff.mp h
    have starless {l : List Char} (h : TokenPart l) : '*' ∉ l := fun mem =>
      absurd (h.2 _ mem) (by decide)
    have parts : '*' ∉ "eyJ".toList ++ (a ++ '.' :: (b ++ ['.'])) := by
      simp [starless ha, starless hb]
    obtain ⟨u, rfl, rfl⟩ := exists_of_star_not_mem (z := back) (by simpa using split) parts
    exact compactToken_isSome_iff.mpr ⟨boundary, a, b, u ++ y, ha, hb, by simp⟩
  blind {c} seam before before' s := by
    have absent (before) : compactToken before (c :: s) = none := by
      refine Option.eq_none_iff_forall_ne_some.mpr fun m found => ?_
      obtain ⟨-, a, b, back, -, -, split⟩ :=
        compactToken_isSome_iff.mp (Option.isSome_iff_exists.mpr ⟨m, found⟩)
      obtain ⟨rfl, -⟩ := List.cons_eq_cons.mp split
      exact absurd seam (by decide)
    rw [absent, absent]
  letter h := by
    obtain ⟨-, a, b, back, -, -, split⟩ := compactToken_isSome_iff.mp h
    obtain ⟨rfl, -⟩ := List.cons_eq_cons.mp split
    decide
  outside cover mem u left suffix before s := by
    have clashes : ∀ cover ∈ covers, Clashes false "eyJ".toList cover := by decide
    rw [compactToken_eq, compactRest?, (clashes cover mem).afterWord?_eq_none left suffix s]
    split <;> rfl

theorem unmatched_compactToken (s : List Char) :
    Unmatched compactToken none (replaceAll compactToken s) := by
  refine starless_compactToken.unmatched cutting_compactToken (fun cuts u left suffix => ?_)
    (fun cuts _ mem => absurd (cuts.tailless ▸ mem) List.not_mem_nil) s
  exact absurd (List.suffix_nil.mp (cuts.leadless ▸ suffix)) left

/-- **Five rules match nowhere in what is left of a message.** -/
theorem unmatched_redactText : ∀ rule ∈ [secretKey.rule, compactToken, bearer, refreshToken.rule,
    anyToken.rule], ∀ s, Unmatched rule none (redactText s) := by
  have last (first : List Rule) {rest : List Rule} {rule : Rule}
      (split : rules = first ++ rule :: rest) (starless : Starless rule)
      (own : ∀ s, Unmatched rule none (replaceAll rule s)) (s) :
      Unmatched rule none (redactText s) := by
    rw [redactText, split]
    exact starless.unmatched_foldl own
      (fun other mem => exists_cutting other (split ▸ by simp [mem])) s
  have keyed (first : List Rule) {rest : List Rule} {k : Keyed} {word : String}
      {words : List String} (regular : k.Regular) (split : rules = first ++ k.rule :: rest)
      (solid : k.Solid) (named : k.words = word :: words)
      (clashes : ∀ cover ∈ covers, Clashes k.foldCase word.toList cover)
      (stars : k.value '*' = false) : ∀ s, Unmatched k.rule none (redactText s) := by
    have starless := Keyed.starless regular named clashes stars
    exact last first split starless (Keyed.unmatched regular solid.value starless)
  obtain ⟨secret, -, -, refresh, any, -⟩ := forall_mem_keyedRules.mp regular_of_mem
  simp only [List.forall_mem_cons]
  refine ⟨?_, ?_, ?_, ?_, ?_, nofun⟩
  · exact keyed [] secret rfl solid_secretKey rfl (by decide) (by decide)
  · exact last [secretKey.rule, jwtSecret.rule] rfl starless_compactToken
      unmatched_compactToken
  · exact last [secretKey.rule, jwtSecret.rule, compactToken] rfl starless_bearer
      unmatched_bearer
  · exact keyed [secretKey.rule, jwtSecret.rule, compactToken, bearer, accessToken.rule] refresh
      rfl solid_refreshToken rfl (by decide) (by decide)
  · exact keyed [secretKey.rule, jwtSecret.rule, compactToken, bearer, accessToken.rule,
      refreshToken.rule] any rfl solid_anyToken rfl (by decide) (by decide)

theorem toList_redact (message : String) : (redact message).toList = redactText message.toList :=
  String.toList_ofList

/-- **No compact token survives.** Wherever `eyJ`, a part, a dot, a part and a dot stand in what may
be logged of a message, they do not start at a word boundary. -/
theorem redact_compactToken_free (message : String) :
    ¬ ∃ front a b back : String, redact message = front ++ "eyJ" ++ a ++ "." ++ b ++ "." ++ back ∧
      (∀ part ∈ [a, b], part ≠ "" ∧ ∀ c ∈ part.toList, c.isAlphanum ∨ c = '_' ∨ c = '-') ∧
        isWordBoundary front.toList.getLast? (some 'e') = true := by
  rintro ⟨front, a, b, back, text, parts, boundary⟩
  have part (l) (mem : l ∈ [a, b]) : TokenPart l.toList := by
    obtain ⟨left, inside⟩ := parts l mem
    exact ⟨by simpa using left, fun c hc => isTokenChar_iff.mpr (inside c hc)⟩
  have split : redactText message.toList = front.toList ++
      ("eyJ".toList ++ (a.toList ++ '.' :: (b.toList ++ '.' :: back.toList))) := by
    rw [← toList_redact, text]
    simp
  generalize message.toList = text at split
  have all := unmatched_redactText compactToken (List.mem_cons_of_mem _ List.mem_cons_self) text
  rw [split] at all
  have absent := all.at_append (by simp)
  have found := compactToken_isSome_iff.mpr ⟨boundary, a.toList, b.toList, back.toList,
    part a (by simp), part b (by simp), rfl⟩
  rw [Option.or_none] at absent
  rw [absent] at found
  exact nomatch found

end LoginGate.Redact
