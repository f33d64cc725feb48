import LoginGate.Proofs.Redact.Keyed
import LoginGate.Redact.Rules

/-!
# Proofs/Redact/Tokens — compact tokens and bearers, on texts that end in a blank

Neither the characters of a compact token, nor those of the token behind the word `bearer`, have a
blank among them. There may be blanks behind that word, but a token has to follow them. So both
rules are through with a text that ends in a blank before that blank is reached, unless it stands
behind the word; then a text that starts with no token makes no difference.
-/

namespace LoginGate.Redact

open Text

variable {T : List Char → Prop} {before : Option Char} {s : List Char}

/-! ## The characters of values -/

theorem isBlank_of_isAssignment (c : Char) (h : isAssignment c = true) : isBlank c = false := by
  simp only [isAssignment, Bool.or_eq_true, decide_eq_true_eq] at h
  obtain rfl | rfl := h <;> decide

theorem isQuote_eq_false_iff {c : Char} : isQuote c = false ↔ c ≠ '\'' ∧ c ≠ '"' := by
  simp [isQuote]

theorem isPlain_iff {c : Char} : isPlain c = true ↔ isBlank c = false ∧ isQuote c = false := by
  simp [isPlain]

/-- What is printed in ASCII and is no quote is plain. -/
theorem isPlain_of_ascii {c : Char} (low : 0x28 ≤ c.toNat) (high : c.toNat < 0x80) :
    isPlain c = true := by
  refine isPlain_iff.mpr ⟨isBlank_of_ascii (by omega) high, isQuote_eq_false_iff.mpr ⟨?_, ?_⟩⟩
  · rintro rfl
    exact absurd low (by decide)
  · rintro rfl
    exact absurd low (by decide)

/-- Letters and digits lie between `'0'` and `'z'`. -/
theorem toNat_of_isAlphanum {c : Char} (h : c.isAlphanum = true) :
    0x30 ≤ c.toNat ∧ c.toNat ≤ 0x7a := by
  have within (low high : Char) (floor : 0x30 ≤ low.toNat) (ceiling : high.toNat ≤ 0x7a)
      (h : low.val ≤ c.val ∧ c.val ≤ high.val) : 0x30 ≤ c.toNat ∧ c.toNat ≤ 0x7a :=
    ⟨floor.trans (UInt32.le_iff_toNat_le.mp h.1), (UInt32.le_iff_toNat_le.mp h.2).trans ceiling⟩
  obtain letter | digit := (Bool.or_eq_true ..).mp h
  · obtain upper | lower := (Bool.or_eq_true ..).mp letter
    · exact within 'A' 'Z' (by decide) (by decide) (of_decide_eq_true upper)
    · have range := (Bool.and_eq_true ..).mp lower
      exact within 'a' 'z' (by decide) (by decide) (range.imp of_decide_eq_true of_decide_eq_true)
  · obtain ⟨low, high⟩ := Char.isDigit_iff_toNat.mp digit
    exact ⟨low, high.trans (by decide)⟩

/-- The characters of tokens are plain. -/
theorem isPlain_of_isDottedChar {c : Char} (h : isDottedChar c = true) : isPlain c = true := by
  simp only [isDottedChar, isTokenChar, isAlnum, Bool.or_eq_true, decide_eq_true_eq] at h
  obtain ((alnum | rfl) | rfl) | rfl := h
  · obtain ⟨low, high⟩ := toNat_of_isAlphanum alnum
    exact isPlain_of_ascii (by omega) (by omega)
  all_goals decide

theorem isTokenChar_iff {c : Char} :
    isTokenChar c = true ↔ c.isAlphanum ∨ c = '_' ∨ c = '-' := by
  simp [isTokenChar, isAlnum, or_assoc]

theorem isDottedChar_of_isTokenChar {c : Char} (h : isTokenChar c = true) :
    isDottedChar c = true := by
  simp [isDottedChar, h]

/-- No character of a token separates it from a key. -/
theorem isAssignment_of_isTokenChar {c : Char} (h : isTokenChar c = true) :
    isAssignment c = false := by
  refine Bool.eq_false_iff.mpr fun separates => ?_
  simp only [isAssignment, Bool.or_eq_true, decide_eq_true_eq] at separates
  obtain rfl | rfl := separates <;> exact absurd h (by decide)

/-! ## Compact tokens -/

/-- A word with its letter case is read where it stands. -/
theorem eq_append_of_afterWord? {word r : List Char} (h : afterWord? false word s = some r) :
    s = word ++ r := by
  obtain ⟨u, rfl, fits⟩ := afterWord?_eq_some_iff.mp h
  have same : List.Forall₂ Eq word u := fits.imp fun _ _ => of_decide_eq_true
  rw [List.forall₂_eq_eq_eq] at same
  rw [same]

theorem afterDot?_eq (s : List Char) : afterDot? s = afterWord? false ['.'] s := by
  unfold afterDot?
  split
  · rfl
  · next other =>
    refine Eq.symm (Option.eq_none_iff_forall_ne_some.mpr fun r found => ?_)
    exact other r (eq_append_of_afterWord? found)

/-- What follows a part of a compact token, which is not empty, and the dot behind it. -/
def afterPart? (s : List Char) : Option (List Char) :=
  if (s.dropWhile isTokenChar).length < s.length then afterDot? (s.dropWhile isTokenChar) else none

/-- What follows a compact token, from behind its first three characters. -/
def afterCompact? (s : List Char) : Option (List Char) :=
  ((afterPart? s).bind afterPart?).bind fun tail => some (tail.dropWhile isTokenChar)

/-- What follows a compact token. -/
def compactRest? (s : List Char) : Option (List Char) :=
  (afterWord? false "eyJ".toList s).bind afterCompact?

theorem compactToken_eq (before : Option Char) (s : List Char) :
    compactToken before s = if isWordBoundary before (some 'e') then
      (compactRest? s).map fun r => ⟨s.length - r.length, compactMask⟩ else none := by
  unfold compactToken compactRest?
  split
  · next rest =>
    have read : afterWord? false "eyJ".toList ('e' :: 'y' :: 'J' :: rest) = some rest := rfl
    simp only [read, Option.bind_some, afterCompact?]
    split
    · by_cases first : (rest.dropWhile isTokenChar).length < rest.length
      · rw [afterPart?, if_pos first]
        cases afterDot? (rest.dropWhile isTokenChar) with
        | none => rfl
        | some body =>
          simp only [Option.bind_some, first, true_and]
          by_cases second : (body.dropWhile isTokenChar).length < body.length
          · rw [afterPart?, if_pos second]
            cases afterDot? (body.dropWhile isTokenChar) <;> simp [second]
          · rw [afterPart?, if_neg second]
            cases afterDot? (body.dropWhile isTokenChar) <;> simp [second]
      · rw [afterPart?, if_neg first]
        cases afterDot? (rest.dropWhile isTokenChar) with
        | none => rfl
        | some body =>
          simp only [first, false_and, if_false]
          cases afterDot? (body.dropWhile isTokenChar) <;> rfl
    · rfl
  · next other =>
    have unread : afterWord? false "eyJ".toList s = none :=
      Option.eq_none_iff_forall_ne_some.mpr fun r found => other r (eq_append_of_afterWord? found)
    rw [unread]
    split <;> rfl

theorem stops_afterDot? : Stops T afterDot? := by
  rw [show afterDot? = afterWord? false ['.'] from funext afterDot?_eq]
  exact stops_afterWord? false (by decide)

theorem isBlank_of_isTokenChar (c : Char) (h : isTokenChar c = true) : isBlank c = false :=
  (isPlain_iff.mp (isPlain_of_isDottedChar (isDottedChar_of_isTokenChar h))).1

/-- A part of a compact token is over before a blank. -/
theorem stops_afterPart? : Stops T afterPart? := by
  intro s h
  have body := dropWhile_append isBlank_of_isTokenChar h
  obtain ⟨blind, left⟩ := stops_afterDot? (T := T) _ (h.dropWhile isBlank_of_isTokenChar)
  simp only [afterPart?, body, List.length_append, Nat.add_lt_add_iff_right]
  split
  · exact ⟨blind, left⟩
  · exact ⟨fun _ _ => rfl, fun r found => absurd found (Option.not_mem_none r)⟩

/-- So is the token. -/
theorem stops_afterCompact? : Stops T afterCompact? :=
  (stops_afterPart?.bind stops_afterPart?).bind (stops_dropWhile isBlank_of_isTokenChar)

theorem stops_compactRest? : Stops T compactRest? :=
  (stops_afterWord? false (by decide)).bind stops_afterCompact?

theorem afterPart?_suffix {r : List Char} (h : afterPart? s = some r) : '.' :: r <:+ s := by
  unfold afterPart? at h
  split at h
  · rw [afterDot?_eq] at h
    have read : s.dropWhile isTokenChar = '.' :: r := eq_append_of_afterWord? h
    exact read ▸ List.dropWhile_suffix isTokenChar
  · exact nomatch h

theorem afterCompact?_suffix {r : List Char} (h : afterCompact? s = some r) :
    r <:+ s ∧ '.' ∈ s := by
  obtain ⟨tail, parts, last⟩ := Option.bind_eq_some_iff.mp h
  obtain rfl := Option.some.inj last
  obtain ⟨body, first, second⟩ := Option.bind_eq_some_iff.mp parts
  have bodySuffix := afterPart?_suffix first
  have tailSuffix := afterPart?_suffix second
  refine ⟨?_, bodySuffix.subset List.mem_cons_self⟩
  exact (List.dropWhile_suffix isTokenChar).trans ((List.suffix_cons '.' tail).trans
    (tailSuffix.trans ((List.suffix_cons '.' body).trans bodySuffix)))

theorem compactToken_eq_some {m : Match} (h : compactToken before s = some m) :
    ∃ rest r, s = "eyJ".toList ++ rest ∧ afterCompact? rest = some r ∧
      m = ⟨s.length - r.length, compactMask⟩ := by
  rw [compactToken_eq] at h
  split at h
  · obtain ⟨r, read, rfl⟩ := Option.map_eq_some_iff.mp h
    obtain ⟨rest, word, compact⟩ := Option.bind_eq_some_iff.mp read
    exact ⟨rest, r, eq_append_of_afterWord? word, compact, rfl⟩
  · exact nomatch h

/-- **The rule for compact tokens is steady** before any text. -/
theorem steady_compactToken : Steady compactToken T where
  short {before s m} h found := by
    obtain ⟨rest, r, rfl, compact, rfl⟩ := compactToken_eq_some found
    obtain ⟨suffix, dotted⟩ := afterCompact?_suffix compact
    have blank : EndsBlank rest := (endsBlank_append_iff _ (List.ne_nil_of_mem dotted)).mp h
    have left := (stops_afterCompact? (T := T) rest blank).2 r compact
    have some := List.length_pos_iff.mpr left.ne_nil
    have bound := suffix.length_le
    have start : "eyJ".toList.length = 3 := rfl
    simp only [List.length_append, start]
    omega
  blind before s h := by
    refine .inl fun t ht => ?_
    rw [compactToken_eq, compactToken_eq, (stops_compactRest? s h).1 t ht]
    cases compactRest? s with
    | none => rfl
    | some r => simp [Nat.add_sub_add_right]

/-- There is no compact token without a dot. -/
theorem compactToken_eq_none (h : '.' ∉ s) : compactToken before s = none := by
  cases found : compactToken before s with
  | none => rfl
  | some m =>
    obtain ⟨rest, r, rfl, compact, -⟩ := compactToken_eq_some found
    exact absurd (List.mem_append_right _ (afterCompact?_suffix compact).2) h

theorem keeps_compactToken {key : List Char} {Value : List Char → Prop}
    (clashes : Clashes false "eyJ".toList key)
    (closed : ∀ before v, Value v → Value (replaceFrom compactToken before 0 v)) :
    Keeps compactToken key Value where
  steady := steady_compactToken
  unmatched before _ v left suffix _ := by
    rw [compactToken_eq, compactRest?, clashes.afterWord?_eq_none left suffix v]
    split <;> rfl
  closed before _ h := closed before _ h

/-! ## Bearers -/

theorem isBlank_of_isFoldedDottedChar (c : Char) (h : isFoldedDottedChar c = true) :
    isBlank c = false := by
  simp only [isFoldedDottedChar, Bool.or_eq_true, decide_eq_true_eq] at h
  obtain (((dotted | rfl) | rfl) | rfl) | rfl := h
  · exact (isPlain_iff.mp (isPlain_of_isDottedChar dotted)).1
  all_goals decide

/-- What the rule for bearers finds. -/
theorem bearer_eq_some {m : Match} (h : bearer before s = some m) :
    ∃ rest, afterWord? true "bearer".toList s = some rest ∧
      (rest.dropWhile isBlank).length < rest.length ∧
      20 ≤ ((rest.dropWhile isBlank).takeWhile isFoldedDottedChar).length ∧
      m.size = s.length - ((rest.dropWhile isBlank).dropWhile isFoldedDottedChar).length := by
  unfold bearer at h
  split at h
  · exact nomatch h
  next rest word =>
  simp only at h
  split at h
  · next long =>
    obtain rfl := Option.some.inj h
    have cut := congrArg List.length (List.takeWhile_append_dropWhile (p := isFoldedDottedChar)
      (l := rest.dropWhile isBlank))
    rw [List.length_append] at cut
    exact ⟨rest, word, long.1, long.2, by simp only; omega⟩
  · exact nomatch h

theorem stops_bearer : Stops T (afterWord? true "bearer".toList) :=
  stops_afterWord? true (by decide)

/-- **The rule for bearers is steady** before texts that start with no blank and no token. -/
theorem steady_bearer (apart : ∀ t, T t → ∃ c ∈ t.head?, isBlank c = false)
    (narrow : ∀ t, T t → (t.takeWhile isFoldedDottedChar).length < 20) : Steady bearer T where
  short {before s m} h found := by
    obtain ⟨rest, word, blanks, long, size⟩ := bearer_eq_some found
    have blank := (stops_bearer (T := T) s h).2 rest word
    have left : rest.dropWhile isBlank ≠ [] := by
      intro none
      simp [none] at long
    have last := (blank.of_suffix (List.dropWhile_suffix isBlank) left).dropWhile
      isBlank_of_isFoldedDottedChar
    have bound := (List.dropWhile_suffix (l := rest.dropWhile isBlank) isFoldedDottedChar).length_le
    have some := List.length_pos_iff.mpr last.ne_nil
    have inside := (afterWord?_suffix word).length_le
    omega
  blind before s h := by
    refine .inl fun t ht => ?_
    obtain ⟨blind, left⟩ := stops_bearer (T := T) s h
    have none := narrow t ht
    obtain ⟨c, head, solid⟩ := apart t ht
    obtain ⟨u, rfl⟩ := List.head?_eq_some_iff.mp head
    unfold bearer
    rw [blind _ ht]
    cases word : afterWord? true "bearer".toList s with
    | none => rfl
    | some rest =>
      simp only [Option.map_some, dropWhile_isBlank_append solid]
      by_cases onlyBlanks : rest.dropWhile isBlank = []
      · rw [onlyBlanks, List.nil_append, if_neg (fun long => Nat.not_lt.mpr long.2 none),
          if_neg (fun long => absurd long.2 (by decide))]
      · have body := (left rest word).of_suffix (List.dropWhile_suffix isBlank) onlyBlanks
        have value := takeWhile_append_of_dropWhile_append
          (dropWhile_append isBlank_of_isFoldedDottedChar body (c :: u))
        have inside := List.takeWhile_prefix (l := rest.dropWhile isBlank) isFoldedDottedChar
        have bound := inside.length_le
        rw [value, take_length_sub_append]
        simp only [List.length_append, Nat.add_lt_add_iff_right]
        congr 3
        omega

/-- There is no bearer without a blank. -/
theorem bearer_eq_none (h : ∀ c ∈ s, isBlank c = false) : bearer before s = none := by
  cases found : bearer before s with
  | none => rfl
  | some m =>
    obtain ⟨rest, word, blanks, -⟩ := bearer_eq_some found
    have kept : rest.dropWhile isBlank = rest := by
      cases rest with
      | nil => rfl
      | cons c rest =>
        simp [h c ((afterWord?_suffix word).subset List.mem_cons_self)]
    exact absurd blanks (by rw [kept]; exact Nat.lt_irrefl _)

theorem keeps_bearer {w : List Char} {d : Char} {Value : List Char → Prop}
    (clashes : Clashes true "bearer".toList (w ++ [d]))
    (apart : ∃ c ∈ w.head?, isBlank c = false) (stop : isFoldedDottedChar d = false)
    (short : w.length < 20) (plain : ∀ v, Value v → ∀ c ∈ v, isPlain c = true) :
    Keeps bearer (w ++ [d]) Value where
  steady := by
    refine steady_bearer ?_ ?_
    · rintro t ⟨v, -, rfl⟩
      obtain ⟨c, head, solid⟩ := apart
      obtain ⟨u, rfl⟩ := List.head?_eq_some_iff.mp head
      exact ⟨c, rfl, solid⟩
    · rintro t ⟨v, -, rfl⟩
      rw [List.append_assoc]
      exact Nat.lt_of_le_of_lt (Keyed.length_takeWhile_append_le stop) short
  unmatched _ _ v left suffix _ := by
    unfold bearer
    rw [clashes.afterWord?_eq_none left suffix v]
  closed before v h := by
    rwa [replaceFrom_eq_self fun _ u _ suffix => bearer_eq_none fun c mem =>
      (isPlain_iff.mp (plain v h c (suffix.subset mem))).1]

end LoginGate.Redact
