import LoginGate.Proofs.Redact.Passes
import LoginGate.Proofs.Redact.Tokens

/-!
# Proofs/Redact/Leads — what a rule with a key takes apart

What stands in front of a value is made of the letters of a key, blanks, a separator, blanks and
perhaps a quote. It is read without a look at what follows, so a rule with a key matches a text
exactly if the text starts with such a lead and a value behind it (`Keyed.reads`). What a match
takes apart is told by `Keyed.Cuts`.
-/

namespace LoginGate.Redact

open Text

variable {s r : List Char} {before : Option Char}

/-! ## The characters of keys -/

/-- A letter, in any of its forms, or a digit or a joint. -/
def isKeyChar (c : Char) : Bool := isFoldedDottedChar c && c ≠ '.'

/-- What stands right in front of a value, but for blanks. -/
def isMark (c : Char) : Bool := isAssignment c || isQuote c

theorem isMark_iff {c : Char} : isMark c = true ↔ c = ':' ∨ c = '=' ∨ c = '\'' ∨ c = '"' := by
  simp [isMark, isAssignment, isQuote, or_assoc]

theorem isMark_of_isAssignment {c : Char} (h : isAssignment c = true) : isMark c = true := by
  simp [isMark, h]

theorem isQuote_of_isAssignment {c : Char} (h : isAssignment c = true) : isQuote c = false := by
  simp only [isAssignment, Bool.or_eq_true, decide_eq_true_eq] at h
  obtain rfl | rfl := h <;> decide

/-- Neither marks nor stars stand in a token. -/
theorem not_mark_of_isFoldedDottedChar {c : Char} (h : isFoldedDottedChar c = true) :
    isMark c = false ∧ c ≠ '*' := by
  refine ⟨Bool.eq_false_iff.mpr fun mark => ?_, ?_⟩
  · obtain rfl | rfl | rfl | rfl := isMark_iff.mp mark <;> exact absurd h (by decide)
  · rintro rfl
    exact absurd h (by decide)

theorem isFoldedDottedChar_of_isKeyChar {c : Char} (h : isKeyChar c = true) :
    isFoldedDottedChar c = true :=
  ((Bool.and_eq_true ..).mp h).1

theorem isMark_of_isKeyChar {c : Char} (h : isKeyChar c = true) : isMark c = false :=
  (not_mark_of_isFoldedDottedChar (isFoldedDottedChar_of_isKeyChar h)).1

theorem isBlank_of_isKeyChar {c : Char} (h : isKeyChar c = true) : isBlank c = false :=
  isBlank_of_isFoldedDottedChar c (isFoldedDottedChar_of_isKeyChar h)

theorem isKeyChar_of_isTokenChar {c : Char} (h : isTokenChar c = true) : isKeyChar c = true := by
  have undotted : c ≠ '.' := by
    rintro rfl
    exact absurd h (by decide)
  simp [isKeyChar, isFoldedDottedChar, isDottedChar, h, undotted]

theorem isKeyChar_of_isJoint {c : Char} (h : isJoint c = true) : isKeyChar c = true := by
  simp only [isJoint, Bool.or_eq_true, decide_eq_true_eq] at h
  obtain rfl | rfl := h <;> decide

theorem isTokenChar_of_isAlpha {c : Char} (h : c.isAlpha = true) : isTokenChar c = true :=
  isTokenChar_iff.mpr (.inl ((Bool.or_eq_true ..).mpr (.inl h)))

theorem isTokenChar_of_isLower {c : Char} (h : c.isLower = true) : isTokenChar c = true :=
  isTokenChar_of_isAlpha ((Bool.or_eq_true ..).mpr (.inr h))

/-- Every form of a letter may stand in a key. -/
theorem isKeyChar_of_sameLetter {letter c : Char} (lower : letter.isLower = true)
    (same : sameLetter letter c = true) : isKeyChar c = true := by
  rw [sameLetter, Bool.or_eq_true, decide_eq_true_eq] at same
  obtain rfl | foreign := same
  · by_cases upper : c.val ≥ 'A'.val ∧ c.val ≤ 'Z'.val
    · have upper : c.isUpper = true := decide_eq_true upper
      have alpha : c.isAlpha = true := (Bool.or_eq_true ..).mpr (.inl upper)
      exact isKeyChar_of_isTokenChar (isTokenChar_of_isAlpha alpha)
    · have same : c.toLower = c := dif_neg upper
      exact isKeyChar_of_isTokenChar (isTokenChar_of_isLower (same ▸ lower))
  · have all : (foreignForms letter).all isKeyChar = true := by
      unfold foreignForms
      split <;> decide
    exact List.all_eq_true.mp all c (by simpa using foreign)

/-! ## As many characters as there are, and one that may be missing -/

/-- **All characters of a class** that a text starts with, and the rest. -/
structure Spans (p : Char → Bool) (u rest : List Char) : Prop where
  inside : ∀ c ∈ u, p c = true
  stop : ∀ c ∈ rest.head?, p c = false

section Spans
variable {p : Char → Bool} {u rest : List Char}

theorem exists_spans (p : Char → Bool) (s : List Char) :
    ∃ u rest, s = u ++ rest ∧ Spans p u rest := by
  refine ⟨_, _, List.takeWhile_append_dropWhile.symm, fun c mem => List.mem_takeWhile_imp mem,
    fun c head => ?_⟩
  have stop := List.head?_dropWhile_not p s
  rw [Option.mem_def.mp head] at stop
  simpa using stop

theorem Spans.takeWhile_eq (h : Spans p u rest) : (u ++ rest).takeWhile p = u := by
  rw [List.takeWhile_append_of_pos h.inside]
  cases rest with
  | nil => simp
  | cons c rest => simp [h.stop c rfl]

theorem Spans.dropWhile_eq (h : Spans p u rest) : (u ++ rest).dropWhile p = rest := by
  rw [List.dropWhile_append_of_pos h.inside]
  cases rest with
  | nil => rfl
  | cons c rest => simp [h.stop c rfl]

theorem length_le_takeWhile (inside : ∀ c ∈ u, p c = true) (z : List Char) :
    u.length ≤ ((u ++ z).takeWhile p).length := by
  rw [List.takeWhile_append_of_pos inside, List.length_append]
  exact Nat.le_add_right ..

end Spans

/-- **One character of a class, or none**, in front of what does not start with one. -/
structure Optional (p : Char → Bool) (j rest : List Char) : Prop where
  inside : ∀ c ∈ j, p c = true
  single : j.length ≤ 1
  outside : j = [] → ∀ c ∈ rest.head?, p c = false

section Optional
variable {p : Char → Bool} {j rest : List Char}

theorem exists_optional (p : Char → Bool) (s : List Char) :
    ∃ j rest, s = j ++ rest ∧ Optional p j rest := by
  cases s with
  | nil => exact ⟨[], [], rfl, nofun, Nat.zero_le 1, nofun⟩
  | cons c s =>
    cases h : p c with
    | true => exact ⟨[c], s, rfl, by simpa using h, Nat.le_refl 1, nofun⟩
    | false =>
      exact ⟨[], c :: s, rfl, nofun, Nat.zero_le 1, fun _ d head => Option.some.inj head ▸ h⟩

theorem Optional.dropOne_eq (h : Optional p j rest) : dropOne p (j ++ rest) = rest := by
  cases j with
  | nil =>
    cases rest with
    | nil => rfl
    | cons c rest => simp [dropOne, h.outside rfl c rfl]
  | cons c j =>
    obtain rfl : j = [] :=
      List.length_eq_zero_iff.mp (Nat.le_zero.mp (Nat.le_of_succ_le_succ h.single))
    simp [dropOne, h.inside c List.mem_cons_self]

/-- What follows the first character makes no difference. -/
theorem Optional.of_append {u : List Char} (left : u ≠ []) (h : Optional p j (u ++ r))
    (r' : List Char) : Optional p j (u ++ r') := by
  obtain ⟨c, u, rfl⟩ := List.exists_cons_of_ne_nil left
  exact ⟨h.inside, h.single, h.outside⟩

end Optional

/-! ## The words of a key -/

/-- A word is read without a look at what follows. -/
theorem afterWord?_eq_some {foldCase : Bool} {word : List Char}
    (lower : word.all Char.isLower = true) (h : afterWord? foldCase word s = some r) :
    ∃ u, s = u ++ r ∧ u.length = word.length ∧ (∀ c ∈ u, isKeyChar c = true) ∧
      ∀ r', afterWord? foldCase word (u ++ r') = some r' := by
  obtain ⟨u, rfl, fits⟩ := afterWord?_eq_some_iff.mp h
  refine ⟨u, rfl, fits.length_eq.symm, ?_, fun r' => afterWord?_eq_some_iff.mpr ⟨u, rfl, fits⟩⟩
  clear h
  induction fits with
  | nil => exact List.forall_mem_nil _
  | @cons w c word u same _ ih =>
    obtain ⟨first, lower⟩ := (Bool.and_eq_true ..).mp (List.all_cons ▸ lower)
    refine List.forall_mem_cons.mpr ⟨?_, ih lower⟩
    cases foldCase with
    | true => exact isKeyChar_of_sameLetter first same
    | false =>
      obtain rfl : w = c := of_decide_eq_true same
      exact isKeyChar_of_isTokenChar (isTokenChar_of_isLower first)

/-- So is a key. -/
theorem afterKey?_eq_some {foldCase : Bool} {words : List (List Char)} (named : words ≠ [])
    (lower : ∀ word ∈ words, word ≠ [] ∧ word.all Char.isLower = true)
    (h : afterKey? foldCase words s = some r) :
    ∃ u, s = u ++ r ∧ u ≠ [] ∧ (∀ c ∈ u, isKeyChar c = true) ∧
      ∀ r', afterKey? foldCase words (u ++ r') = some r' := by
  induction words generalizing s with
  | nil => exact absurd rfl named
  | cons word words ih =>
    obtain ⟨⟨left, first⟩, rest⟩ := List.forall_mem_cons.mp lower
    have nonempty {u : List Char} (size : u.length = word.length) : u ≠ [] := by
      rintro rfl
      exact left (List.length_eq_zero_iff.mp size.symm)
    cases words with
    | nil =>
      obtain ⟨u, split, size, letters, read⟩ := afterWord?_eq_some first h
      exact ⟨u, split, nonempty size, letters, read⟩
    | cons next words =>
      rw [afterKey?_cons] at h
      obtain ⟨r₁, word₁, later⟩ := Option.bind_eq_some_iff.mp h
      obtain ⟨u₁, rfl, size, letters₁, read₁⟩ := afterWord?_eq_some first word₁
      obtain ⟨j, r₂, rfl, joint⟩ := exists_optional isJoint r₁
      rw [joint.dropOne_eq] at later
      obtain ⟨u₂, rfl, left₂, letters₂, read₂⟩ := ih (List.cons_ne_nil next words) rest later
      refine ⟨u₁ ++ (j ++ u₂), by simp, by simp [left₂], ?_, fun r' => ?_⟩
      · exact List.forall_mem_append.mpr ⟨letters₁, List.forall_mem_append.mpr
          ⟨fun c mem => isKeyChar_of_isJoint (joint.inside c mem), letters₂⟩⟩
      · rw [afterKey?_cons, List.append_assoc, List.append_assoc, read₁, Option.bind_some,
          (joint.of_append left₂ r').dropOne_eq, read₂]

/-! ## Rules that read a lead and a value -/

/-- **A rule reads leads and values**: a match starts with a lead and a value, and every lead with a
value behind it is a match. There are no stars in a lead. -/
structure Reads (rule : Rule) (Lead : List Char → Prop) (value : Char → Bool) (least : Nat) :
    Prop where
  parts : ∀ {before s}, (rule before s).isSome → ∃ lead gone z, s = lead ++ (gone ++ z) ∧
    Lead lead ∧ (∀ c ∈ gone, value c = true) ∧ least ≤ gone.length
  isSome : ∀ {lead gone}, Lead lead → (∀ c ∈ gone, value c = true) → least ≤ gone.length →
    ∀ before z, (rule before (lead ++ (gone ++ z))).isSome
  starless : ∀ {lead}, Lead lead → '*' ∉ lead

section Reads
variable {rule : Rule} {Lead : List Char → Prop} {value : Char → Bool} {least : Nat}
  {v x l z : List Char}

/-- A part without stars is over before the first star. -/
theorem exists_of_star_not_mem (h : v ++ '*' :: x = l ++ z) (starless : '*' ∉ l) :
    ∃ u, v = l ++ u ∧ z = u ++ '*' :: x := by
  obtain ⟨u, rfl, star⟩ | ⟨u, rfl, rfl⟩ := List.append_eq_append_iff.mp h
  · cases u with
    | nil => exact ⟨[], by simp, star.symm⟩
    | cons d u =>
      obtain rfl : '*' = d := (List.cons_eq_cons.mp star).1
      exact absurd (by simp) starless
  · exact ⟨u, rfl, rfl⟩

/-- **What a match takes of a text up to a star**: a lead and a value, or a lead and what a value
with stars starts with. -/
theorem Reads.of_star (reads : Reads rule Lead value least)
    (h : (rule before (v ++ '*' :: x)).isSome) :
    ∃ lead gone, Lead lead ∧ (∀ c ∈ gone, value c = true) ∧
      ((∃ z, v = lead ++ (gone ++ z) ∧ least ≤ gone.length) ∨
        v = lead ++ gone ∧ value '*' = true) := by
  obtain ⟨lead, gone, z, whole, leads, inside, long⟩ := reads.parts h
  obtain ⟨u, rfl, behind⟩ := exists_of_star_not_mem whole (reads.starless leads)
  obtain ⟨y, rfl, -⟩ | ⟨y, rfl, star⟩ := List.append_eq_append_iff.mp behind
  · exact ⟨lead, gone, leads, inside, .inl ⟨y, rfl, long⟩⟩
  · cases y with
    | nil =>
      refine ⟨lead, u, leads, by simpa using inside, .inl ⟨[], by simp, by simpa using long⟩⟩
    | cons d y =>
      obtain rfl : '*' = d := (List.cons_eq_cons.mp star).1
      exact ⟨lead, u, leads, fun c mem => inside c (List.mem_append_left _ mem),
        .inr ⟨rfl, inside _ (by simp)⟩⟩

/-- **A match without a star in it** is there, whatever follows the star behind it. -/
theorem Reads.early (reads : Reads rule Lead value least) (starless : value '*' = false)
    (h : (rule before (v ++ '*' :: x)).isSome) (y : List Char) : (rule before (v ++ y)).isSome := by
  obtain ⟨lead, gone, leads, inside, ⟨z, rfl, long⟩ | ⟨-, star⟩⟩ := reads.of_star h
  · simpa using reads.isSome leads inside long before (z ++ y)
  · exact nomatch starless.symm.trans star

end Reads

namespace Keyed
variable {k : Keyed}

/-- **A rule is regular**: the words of its key are lower-case letters, the separators are
assignments, and what may be a value is not empty, has no quotes, and takes in a token. -/
structure Regular (k : Keyed) : Prop where
  named : k.words ≠ []
  words : ∀ word ∈ k.words, word.toList ≠ [] ∧ word.toList.all Char.isLower = true
  separator : ∀ c, k.separator c = true → isAssignment c = true
  unquoted : ∀ c, k.value c = true → isQuote c = false
  tokens : ∀ c, isTokenChar c = true → k.value c = true
  least : 0 < k.least

/-- **A key and its separator**, with nothing but blanks between them. -/
structure Opens (k : Keyed) (key gap : List Char) (c : Char) : Prop where
  named : key ≠ []
  letters : ∀ d ∈ key, isKeyChar d = true
  blank : ∀ d ∈ gap, isBlank d = true
  separates : isAssignment c = true
  read : ∀ r, k.afterSeparator? (key ++ (gap ++ c :: r)) = some r

/-- **What stands in front of a value**: key, blanks, separator, blanks, and perhaps a quote. -/
inductive IsLead (k : Keyed) : List Char → Prop
  | mk {key gap : List Char} {c : Char} {blanks quote : List Char} (opens : k.Opens key gap c)
      (blank : ∀ d ∈ blanks, isBlank d = true) (quoted : ∀ d ∈ quote, isQuote d = true)
      (single : quote.length ≤ 1) : IsLead k (key ++ (gap ++ c :: (blanks ++ quote)))

/-- **What a rule with a key takes apart**: a lead, and a value as long as it may be. The blanks in
front are left out of it, if there is a value behind them. -/
structure Cuts (k : Keyed) (lead gone veil tail rest : List Char) : Prop where
  leads : k.IsLead lead
  wide : k.Wide gone
  masked : veil = mask
  quoted : ∀ c ∈ tail, isQuote c = true
  stop : ∀ c ∈ (tail ++ rest).head?, k.value c = false
  eager : (∀ c ∈ lead, isQuote c = false) → ∀ c ∈ gone.head?, isBlank c = true →
    k.valueAt? ((gone ++ (tail ++ rest)).dropWhile isBlank) = none

/-! ## What is read of a text -/

theorem exists_opens (regular : k.Regular) (h : k.afterSeparator? s = some r) :
    ∃ key gap c, k.Opens key gap c ∧ s = key ++ (gap ++ c :: r) := by
  obtain ⟨rest, keyed, found⟩ := Option.bind_eq_some_iff.mp h
  obtain ⟨key, rfl, named, letters, read⟩ := afterKey?_eq_some (by simpa using regular.named)
    (List.forall_mem_map.mpr regular.words) keyed
  obtain ⟨gap, body, rfl, white⟩ := exists_spans isBlank rest
  simp only [white.dropWhile_eq] at found
  cases body with
  | nil => exact nomatch found
  | cons c body =>
    by_cases separates : k.separator c = true
    · obtain rfl : body = r := by simpa [separates] using found
      have assigns := regular.separator c separates
      refine ⟨key, gap, c, ⟨named, letters, white.inside, assigns, fun r' => ?_⟩, rfl⟩
      have white : Spans isBlank gap (c :: r') := ⟨white.inside, white.stop⟩
      simp only [afterSeparator?, read, Option.bind_some, white.dropWhile_eq, separates, if_true]
    · simp [separates] at found

theorem valueAt?_eq_some {kept after : List Char} (h : k.valueAt? s = some (kept, after)) :
    ∃ gone, s = kept ++ (gone ++ after) ∧ k.Wide gone ∧ (∀ c ∈ kept, isQuote c = true) ∧
      kept.length ≤ 1 ∧ ∀ c ∈ after.head?, k.value c = false := by
  obtain ⟨q, body, rfl, quote⟩ := exists_optional isQuote s
  rw [valueAt?_eq, quote.dropOne_eq, List.length_append, Nat.add_sub_cancel, List.take_left] at h
  obtain ⟨gone, after', rfl, value⟩ := exists_spans k.value body
  rw [value.takeWhile_eq, value.dropWhile_eq] at h
  split at h
  · next long =>
    obtain ⟨rfl, rfl⟩ := Prod.mk.inj (Option.some.inj h)
    exact ⟨gone, rfl, ⟨value.inside, long⟩, quote.inside, quote.single, value.stop⟩
  · exact nomatch h

/-- No quote opens a value that starts with a blank. -/
theorem eq_nil_of_valueAt? {kept after : List Char} {d : Char} (white : isBlank d = true)
    (h : k.valueAt? (d :: s) = some (kept, after)) : kept = [] := by
  obtain ⟨gone, split, -, quoted, -, -⟩ := valueAt?_eq_some h
  cases kept with
  | nil => rfl
  | cons q kept =>
    obtain rfl : d = q := (List.cons_eq_cons.mp split).1
    have solid := isBlank_of_isQuote d (quoted d List.mem_cons_self)
    exact absurd (solid.symm.trans white) Bool.false_ne_true

theorem valueAfterBlanks?_of_valueAt? {kept after : List Char}
    (h : k.valueAt? s = some (kept, after)) (blanks : List Char) :
    k.valueAfterBlanks? blanks s = some (blanks ++ kept, after) := by
  induction blanks with
  | nil => exact h
  | cons c blanks ih => rw [valueAfterBlanks?, ih]; rfl

/-- **A value behind some blanks**: the blanks it starts with, if any, are all there are, and then
there is no value behind them. -/
theorem valueAfterBlanks?_eq_some {blanks kept after : List Char}
    (blank : ∀ c ∈ blanks, isBlank c = true) (solid : ∀ c ∈ s.head?, isBlank c = false)
    (h : k.valueAfterBlanks? blanks s = some (kept, after)) :
    ∃ front quote gone, kept = front ++ quote ∧ blanks ++ s = front ++ (quote ++ (gone ++ after)) ∧
      k.Wide gone ∧ (∀ c ∈ front, isBlank c = true) ∧ (∀ c ∈ quote, isQuote c = true) ∧
      quote.length ≤ 1 ∧ (∀ c ∈ after.head?, k.value c = false) ∧
      (quote = [] → ∀ c ∈ gone.head?, isBlank c = true →
        k.valueAt? ((gone ++ after).dropWhile isBlank) = none) := by
  induction blanks generalizing kept with
  | nil =>
    obtain ⟨gone, rfl, wide, quoted, single, stop⟩ := valueAt?_eq_some h
    refine ⟨[], kept, gone, rfl, rfl, wide, List.forall_mem_nil _, quoted, single, stop, ?_⟩
    rintro rfl c head white
    obtain ⟨u, rfl⟩ := List.head?_eq_some_iff.mp head
    exact absurd ((solid c rfl).symm.trans white) Bool.false_ne_true
  | cons d blanks ih =>
    obtain ⟨white, blank⟩ := List.forall_mem_cons.mp blank
    rw [valueAfterBlanks?] at h
    split at h
    · next inner =>
      obtain ⟨rfl, rfl⟩ := Prod.mk.inj (Option.some.inj h)
      obtain ⟨front, quote, gone, rfl, split, wide, whites, rest⟩ := ih blank inner
      exact ⟨d :: front, quote, gone, rfl, congrArg (d :: ·) split, wide,
        List.forall_mem_cons.mpr ⟨white, whites⟩, rest⟩
    · next none =>
      have behind : k.valueAt? s = .none := by
        cases found : k.valueAt? s with
        | none => rfl
        | some value =>
          rw [valueAfterBlanks?_of_valueAt? found] at none
          cases none
      obtain rfl := eq_nil_of_valueAt? white h
      obtain ⟨gone, split, wide, -, single, stop⟩ := valueAt?_eq_some h
      refine ⟨[], [], gone, rfl, split, wide, List.forall_mem_nil _, List.forall_mem_nil _, single,
        stop, fun _ _ _ _ => ?_⟩
      rw [List.nil_append] at split
      rw [← split, List.dropWhile_append_of_pos (List.forall_mem_cons.mpr ⟨white, blank⟩)]
      cases s with
      | nil => exact behind
      | cons e s => rwa [List.dropWhile_cons_of_neg (by simp [solid e rfl])]

theorem isSome_valueAfterBlanks? {b : List Char} (h : (k.valueAt? (b ++ s)).isSome)
    (front : List Char) : (k.valueAfterBlanks? (front ++ b) s).isSome := by
  induction front with
  | nil =>
    cases b with
    | nil => exact h
    | cons c b =>
      rw [List.nil_append, valueAfterBlanks?]
      split
      · rfl
      · exact h
  | cons c front ih =>
    rw [List.cons_append, valueAfterBlanks?]
    obtain ⟨value, found⟩ := Option.isSome_iff_exists.mp ih
    rw [found]
    rfl

/-! ## What a match takes apart -/

/-- What stands in front of the value stays, and so does the quote behind it. -/
theorem veiled_append (front kept gone : List Char) {tail rest : List Char}
    (closing : Optional isQuote tail rest) :
    veiled (front ++ (kept ++ (gone ++ (tail ++ rest)))) (kept ++ (gone ++ (tail ++ rest))) kept
        (tail ++ rest) =
      ⟨(front ++ (kept ++ (gone ++ tail))).length, front ++ (kept ++ (mask ++ tail))⟩ := by
  have shown : (front ++ (kept ++ (gone ++ (tail ++ rest)))).length - rest.length =
      (front ++ (kept ++ (gone ++ tail))).length := by
    simp only [List.length_append]
    omega
  simp only [veiled, closing.dropOne_eq, shown]
  simp

/-- **A match takes apart** a lead, a value and a quote. -/
theorem veils_rule (regular : k.Regular) {m : Match} (h : k.rule before s = some m) :
    Veils k.Cuts s m := by
  rw [rule_eq_bind] at h
  obtain ⟨r, read, found⟩ := Option.bind_eq_some_iff.mp h
  obtain ⟨⟨kept, after⟩, value, rfl⟩ := Option.map_eq_some_iff.mp found
  obtain ⟨key, gap, c, opens, rfl⟩ := exists_opens regular read
  obtain ⟨blanks, body, rfl, white⟩ := exists_spans isBlank r
  rw [white.takeWhile_eq, white.dropWhile_eq] at value
  obtain ⟨front, quote, gone, rfl, split, wide, white, quoted, single, stop, eager⟩ :=
    valueAfterBlanks?_eq_some white.inside white.stop value
  obtain ⟨tail, rest, rfl, closing⟩ := exists_optional isQuote after
  rw [split]
  have left : gone ≠ [] := List.ne_nil_of_length_pos (Nat.lt_of_lt_of_le regular.least wide.2)
  have veils := Veils.mk (D := k.Cuts) _ gone mask tail rest left
    ⟨.mk opens white quoted single, wide, rfl, closing.inside, stop, fun unquoted => eager ?_⟩
  · have parts := veiled_append (key ++ (gap ++ [c])) (front ++ quote) gone closing
    simp only [List.append_assoc, List.cons_append, List.nil_append] at parts veils ⊢
    exact parts ▸ veils
  · refine List.eq_nil_iff_forall_not_mem.mpr fun d mem => ?_
    exact nomatch (unquoted d (by simp [mem])).symm.trans (quoted d mem)

theorem isSome_valueAt? (regular : k.Regular) {quote gone : List Char} (wide : k.Wide gone)
    (quoted : ∀ d ∈ quote, isQuote d = true) (single : quote.length ≤ 1) (z : List Char) :
    (k.valueAt? (quote ++ (gone ++ z))).isSome := by
  obtain ⟨d, u, rfl⟩ :=
    List.exists_cons_of_ne_nil (List.ne_nil_of_length_pos (Nat.lt_of_lt_of_le regular.least wide.2))
  have quote' : Optional isQuote quote (d :: u ++ z) := by
    refine ⟨quoted, single, fun _ e head => ?_⟩
    exact Option.some.inj head ▸ regular.unquoted d (wide.1 d List.mem_cons_self)
  rw [valueAt?_eq, quote'.dropOne_eq, if_pos (wide.2.trans (length_le_takeWhile wide.1 z))]
  rfl

/-- **A lead and a value behind it are a match**, whatever follows. -/
theorem isSome_of_lead (regular : k.Regular) {lead gone : List Char} (leads : k.IsLead lead)
    (wide : k.Wide gone) (before : Option Char) (z : List Char) :
    (k.rule before (lead ++ (gone ++ z))).isSome := by
  obtain @⟨key, gap, c, blanks, quote, opens, blank, quoted, single⟩ := leads
  have value := isSome_valueAt? regular wide quoted single z
  have split : (blanks ++ (quote ++ (gone ++ z))).takeWhile isBlank =
      blanks ++ (quote ++ (gone ++ z)).takeWhile isBlank := List.takeWhile_append_of_pos blank
  have drop : (blanks ++ (quote ++ (gone ++ z))).dropWhile isBlank =
      (quote ++ (gone ++ z)).dropWhile isBlank := List.dropWhile_append_of_pos blank
  rw [← List.takeWhile_append_dropWhile (p := isBlank) (l := quote ++ (gone ++ z))] at value
  have found := isSome_valueAfterBlanks? value blanks
  rw [rule_eq_bind, show key ++ (gap ++ c :: (blanks ++ quote)) ++ (gone ++ z) =
    key ++ (gap ++ c :: (blanks ++ (quote ++ (gone ++ z)))) by simp, opens.read, Option.bind_some,
    Option.isSome_map, split, drop]
  exact found

/-- A key and a separator are a lead. -/
theorem Opens.isLead {key gap : List Char} {c : Char} (opens : k.Opens key gap c) :
    k.IsLead (key ++ (gap ++ [c])) := by
  have leads : k.IsLead (key ++ (gap ++ c :: ([] ++ []))) := .mk opens nofun nofun (Nat.zero_le 1)
  exact leads

/-- There are no stars in a lead. -/
theorem IsLead.star_not_mem {lead : List Char} (leads : k.IsLead lead) : '*' ∉ lead := by
  obtain @⟨key, gap, c, blanks, quote, opens, blank, quoted, single⟩ := leads
  have blankless {l : List Char} (h : ∀ d ∈ l, isBlank d = true) : '*' ∉ l :=
    fun mem => absurd (h _ mem) (by decide)
  simp only [List.mem_append, List.mem_cons, not_or]
  refine ⟨fun mem => ?_, blankless opens.blank, ?_, blankless blank, fun mem => ?_⟩
  · exact (not_mark_of_isFoldedDottedChar (isFoldedDottedChar_of_isKeyChar
      (opens.letters _ mem))).2 rfl
  · rintro rfl
    exact absurd opens.separates (by decide)
  · exact absurd (quoted _ mem) (by decide)

/-- **A rule with a key reads leads and values.** -/
theorem reads (regular : k.Regular) : Reads k.rule k.IsLead k.value k.least where
  parts h := by
    obtain ⟨m, found⟩ := Option.isSome_iff_exists.mp h
    obtain @⟨lead, gone, veil, tail, rest, -, cuts⟩ := veils_rule regular found
    exact ⟨lead, gone, tail ++ rest, rfl, cuts.leads, cuts.wide⟩
  isSome leads inside long := isSome_of_lead regular leads ⟨inside, long⟩
  starless := IsLead.star_not_mem

/-! ## The separator of a lead -/

/-- There is no more than one separator in a lead: blanks and a quote follow it. -/
theorem IsLead.of_assignment {lead x y : List Char} {c : Char} (leads : k.IsLead lead)
    (split : lead = x ++ c :: y) (separates : isAssignment c = true) :
    ∃ blanks quote, y = blanks ++ quote ∧ (∀ d ∈ blanks, isBlank d = true) ∧
      (∀ d ∈ quote, isQuote d = true) ∧ quote.length ≤ 1 := by
  obtain @⟨key, gap, e, blanks, quote, opens, blank, quoted, single⟩ := leads
  have solid := isBlank_of_isAssignment c separates
  have before : c ∉ key ++ gap := by
    refine List.not_mem_append (fun mem => ?_) fun mem => ?_
    · exact nomatch (isMark_of_isKeyChar (opens.letters c mem)).symm.trans
        (isMark_of_isAssignment separates)
    · exact nomatch solid.symm.trans (opens.blank c mem)
  have behind : c ∉ blanks ++ quote := by
    refine List.not_mem_append (fun mem => ?_) fun mem => ?_
    · exact nomatch solid.symm.trans (blank c mem)
    · exact nomatch (isQuote_of_isAssignment separates).symm.trans (quoted c mem)
  rw [← List.append_assoc] at split
  obtain ⟨u, -, rest⟩ | ⟨u, front, rest⟩ := List.append_eq_append_iff.mp split
  · cases u with
    | nil => exact ⟨blanks, quote, (List.cons_eq_cons.mp rest).2.symm, blank, quoted, single⟩
    | cons d u =>
      have later : blanks ++ quote = u ++ c :: y := (List.cons_eq_cons.mp rest).2
      exact absurd (later ▸ by simp) behind
  · cases u with
    | nil => exact ⟨blanks, quote, (List.cons_eq_cons.mp rest).2, blank, quoted, single⟩
    | cons d u =>
      obtain ⟨rfl, -⟩ := List.cons_eq_cons.mp rest
      exact absurd (front ▸ by simp) before

/-! ## Keys with a separator -/

/-- **A key with its separator** in front of a star is read, whatever follows. -/
theorem isSome_afterSeparator? (regular : k.Regular) {v x : List Char}
    (h : (k.afterSeparator? (v ++ '*' :: x)).isSome) (y : List Char) :
    (k.afterSeparator? (v ++ y)).isSome := by
  obtain ⟨r, read⟩ := Option.isSome_iff_exists.mp h
  obtain ⟨key, gap, c, opens, split⟩ := exists_opens regular read
  obtain ⟨u, rfl, -⟩ :=
    exists_of_star_not_mem (z := r) (by simpa using split) opens.isLead.star_not_mem
  have found := opens.read (u ++ y)
  rw [Option.isSome_iff_exists]
  exact ⟨u ++ y, by simpa using found⟩

/-- A rule finds nothing without a key and a separator. -/
theorem rule_eq_none_of_afterSeparator? (h : k.afterSeparator? s = none) :
    k.rule before s = none := by
  rw [rule_eq_bind, h]
  rfl

/-- A key starts with a letter. -/
theorem isKeyChar_of_afterSeparator? (regular : k.Regular) {c : Char}
    (h : (k.afterSeparator? (c :: s)).isSome) : isKeyChar c = true := by
  obtain ⟨r, read⟩ := Option.isSome_iff_exists.mp h
  obtain ⟨key, gap, d, opens, split⟩ := exists_opens regular read
  obtain ⟨e, key, rfl⟩ := List.exists_cons_of_ne_nil opens.named
  obtain ⟨rfl, -⟩ := List.cons_eq_cons.mp split
  exact opens.letters _ List.mem_cons_self

end Keyed
end LoginGate.Redact
