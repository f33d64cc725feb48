import LoginGate.Proofs.Redact.Scan
import LoginGate.Redact.Keyed
import Mathlib.Data.List.Forall2
import Mathlib.Data.List.TakeWhile

/-!
# Proofs/Redact/Keyed — rules with a key, on texts that end in a blank

Neither the words of a key nor its separator nor the values behind it have blanks in them. So a rule
that has started in a text ending in a blank is through with it before that blank is reached, but
for one case: the key and the separator stand in the text with nothing but blanks behind them. Then
the value is looked for in what follows, and whether there is one depends on what follows.
-/

namespace LoginGate.Redact

open Text

variable {T : List Char → Prop} {s t : List Char}

/-! ## What does not get past a blank -/

/-- What follows a character that is no blank ends in the same blank. -/
theorem EndsBlank.tail {c : Char} (h : EndsBlank (c :: s)) (solid : isBlank c = false) :
    EndsBlank s := by
  cases s with
  | nil =>
    obtain ⟨d, found, blank⟩ := h
    obtain rfl : c = d := Option.some.inj found
    exact nomatch solid.symm.trans blank
  | cons d s => exact (endsBlank_append_iff [c] (List.cons_ne_nil d s)).mp h

section Classes
variable {p : Char → Bool}

theorem dropOne_append (h : EndsBlank s) (t : List Char) :
    dropOne p (s ++ t) = dropOne p s ++ t := by
  cases s with
  | nil => exact absurd rfl h.ne_nil
  | cons c s => by_cases hc : p c = true <;> simp [dropOne, hc]

theorem dropOne_suffix (p : Char → Bool) (s : List Char) : dropOne p s <:+ s := by
  cases s with
  | nil => exact List.suffix_rfl
  | cons c s =>
    rw [dropOne]
    split
    · exact List.suffix_cons c s
    · exact List.suffix_rfl

variable (solid : ∀ c, p c = true → isBlank c = false)
include solid

theorem EndsBlank.dropOne (h : EndsBlank s) : EndsBlank (Redact.dropOne p s) := by
  cases s with
  | nil => exact absurd rfl h.ne_nil
  | cons c s =>
    by_cases hc : p c = true
    · rw [Redact.dropOne, if_pos hc]
      exact h.tail (solid c hc)
    · rwa [Redact.dropOne, if_neg hc]

theorem EndsBlank.dropWhile (h : EndsBlank s) : EndsBlank (s.dropWhile p) := by
  obtain ⟨c, mem, blank⟩ := h.exists_isBlank
  have left : s.dropWhile p ≠ [] := fun all =>
    nomatch (solid c (List.dropWhile_eq_nil_iff.mp all c mem)).symm.trans blank
  exact h.of_suffix (List.dropWhile_suffix p) left

theorem dropWhile_append (h : EndsBlank s) (t : List Char) :
    (s ++ t).dropWhile p = s.dropWhile p ++ t := by
  have left := (h.dropWhile solid).ne_nil
  rw [List.dropWhile_append, if_neg (by simpa using left)]

end Classes

/-- What is dropped is the same, if what is left is the same and more. -/
theorem takeWhile_append_of_dropWhile_append {p : Char → Bool}
    (h : (s ++ t).dropWhile p = s.dropWhile p ++ t) : (s ++ t).takeWhile p = s.takeWhile p := by
  have joined := List.takeWhile_append_dropWhile (p := p) (l := s ++ t)
  rw [h] at joined
  refine List.append_cancel_right (joined.trans ?_)
  rw [← List.append_assoc, List.takeWhile_append_dropWhile]

/-- Blanks are passed over up to what is none. -/
theorem dropWhile_isBlank_append {c : Char} {u : List Char} (solid : isBlank c = false)
    (s : List Char) : (s ++ c :: u).dropWhile isBlank = s.dropWhile isBlank ++ c :: u := by
  induction s with
  | nil => simp [solid]
  | cons d s ih => by_cases blank : isBlank d = true <;> simp [blank, ih]

/-- What stands in front of a part is the same, whatever follows. -/
theorem take_length_sub_append (s r t : List Char) :
    (s ++ t).take ((s ++ t).length - (r ++ t).length) = s.take (s.length - r.length) := by
  rw [List.length_append, List.length_append, Nat.add_sub_add_right,
    List.take_append_of_le_length (Nat.sub_le ..)]

/-- **A reader stops at a blank** that a text ends in: it leaves the same, whatever follows. -/
def Stops (T : List Char → Prop) (read : List Char → Option (List Char)) : Prop :=
  ∀ s, EndsBlank s → (∀ t, T t → read (s ++ t) = (read s).map (· ++ t)) ∧
    ∀ r, read s = some r → EndsBlank r

/-- One reader after the other. -/
theorem Stops.bind {read next : List Char → Option (List Char)} (first : Stops T read)
    (second : Stops T next) : Stops T fun s => (read s).bind next := by
  intro s h
  obtain ⟨blind, left⟩ := first s h
  refine ⟨fun t ht => ?_, fun r found => ?_⟩
  · simp only [blind t ht]
    cases found : read s with
    | none => rfl
    | some r => exact (second r (left r found)).1 t ht
  · obtain ⟨r', first, last⟩ := Option.bind_eq_some_iff.mp found
    exact (second r' (left r' first)).2 r last

/-- Characters without a blank among them are passed over. -/
theorem stops_dropWhile {p : Char → Bool} (solid : ∀ c, p c = true → isBlank c = false) :
    Stops T fun s => some (s.dropWhile p) := by
  intro s h
  refine ⟨fun t _ => congrArg some (dropWhile_append solid h t), fun r found => ?_⟩
  exact Option.some.inj found ▸ h.dropWhile solid

/-! ## The words of a key -/

/-- What is printed in ASCII is no blank. -/
theorem isBlank_of_ascii {c : Char} (low : 0x20 < c.toNat) (high : c.toNat < 0x80) :
    isBlank c = false := by
  simp only [isBlank, Bool.or_eq_false_iff, Bool.and_eq_false_iff, decide_eq_false_iff_not,
    beq_eq_false_iff_ne]
  omega

/-- No form of a letter is a blank. -/
theorem isBlank_of_sameLetter {letter c : Char} (solid : isBlank letter = false)
    (same : sameLetter letter c = true) : isBlank c = false := by
  rw [sameLetter, Bool.or_eq_true, decide_eq_true_eq] at same
  obtain rfl | same := same
  · by_cases upper : c.val ≥ 'A'.val ∧ c.val ≤ 'Z'.val
    · obtain ⟨low, high⟩ := upper
      exact isBlank_of_ascii (Nat.lt_of_lt_of_le (by decide) (UInt32.le_iff_toNat_le.mp low))
        (Nat.lt_of_le_of_lt (UInt32.le_iff_toNat_le.mp high) (by decide))
    · have lower : c.toLower = c := dif_neg upper
      exact lower ▸ solid
  · have foreign : (foreignForms letter).any isBlank = false := by
      unfold foreignForms
      split <;> decide
    exact Bool.eq_false_iff.mpr (List.any_eq_false.mp foreign c (by simpa using same))

theorem isBlank_of_isJoint (c : Char) (h : isJoint c = true) : isBlank c = false := by
  simp only [isJoint, Bool.or_eq_true, decide_eq_true_eq] at h
  obtain rfl | rfl := h <;> decide

theorem isBlank_of_isQuote (c : Char) (h : isQuote c = true) : isBlank c = false := by
  simp only [isQuote, Bool.or_eq_true, decide_eq_true_eq] at h
  obtain rfl | rfl := h <;> decide

theorem afterWord?_cons (foldCase : Bool) (w c : Char) (word s : List Char) :
    afterWord? foldCase (w :: word) (c :: s) =
      if (if foldCase then sameLetter w c else w = c) then afterWord? foldCase word s else none :=
  rfl

/-- **A word is read** where characters stand that are its own, or forms of its letters. -/
theorem afterWord?_eq_some_iff {foldCase : Bool} {word r : List Char} :
    afterWord? foldCase word s = some r ↔ ∃ u, s = u ++ r ∧
      List.Forall₂ (fun w c => (if foldCase then sameLetter w c else w = c) = true) word u := by
  induction word generalizing s with
  | nil => simp [afterWord?]
  | cons w word ih =>
    cases s with
    | nil =>
      refine iff_of_false nofun ?_
      rintro ⟨_, split, _ | _⟩
      exact nomatch split
    | cons c s =>
      rw [afterWord?_cons]
      by_cases same : (if foldCase then sameLetter w c else w = c) = true
      · rw [if_pos same, ih]
        constructor
        · rintro ⟨u, rfl, fits⟩
          exact ⟨c :: u, rfl, .cons same fits⟩
        · rintro ⟨_, split, _ | ⟨-, fits⟩⟩
          exact ⟨_, (List.cons_eq_cons.mp split).2, fits⟩
      · rw [if_neg same]
        refine iff_of_false nofun ?_
        rintro ⟨_, split, _ | ⟨first, -⟩⟩
        obtain ⟨rfl, -⟩ := List.cons_eq_cons.mp split
        exact same first

theorem afterWord?_suffix {foldCase : Bool} {word r : List Char}
    (h : afterWord? foldCase word s = some r) : r <:+ s := by
  obtain ⟨u, rfl, -⟩ := afterWord?_eq_some_iff.mp h
  exact List.suffix_append u r

/-- A word without blanks is read up to a blank at most. -/
theorem stops_afterWord? {word : List Char} (foldCase : Bool)
    (solid : word.any isBlank = false) : Stops T (afterWord? foldCase word) := by
  intro s h
  induction word generalizing s with
  | nil => exact ⟨fun _ _ => rfl, fun r found => Option.some.inj found ▸ h⟩
  | cons w word ih =>
    obtain ⟨solid, rest⟩ := Bool.or_eq_false_iff.mp (List.any_cons ▸ solid)
    cases s with
    | nil => exact absurd rfl h.ne_nil
    | cons c s =>
      simp only [List.cons_append, afterWord?_cons]
      by_cases same : (if foldCase then sameLetter w c else w = c) = true
      · have kept : isBlank c = false := by
          cases foldCase with
          | true => exact isBlank_of_sameLetter solid same
          | false => exact of_decide_eq_true same ▸ solid
        simpa only [same, if_true] using ih rest s (h.tail kept)
      · simp [same]

/-- A word that does not start a text does not start a longer one, as far as the text goes. -/
theorem afterWord?_append_eq_none {foldCase : Bool} {word u : List Char}
    (h : afterWord? foldCase (word.take u.length) u = none) (v : List Char) :
    afterWord? foldCase word (u ++ v) = none := by
  induction word generalizing u with
  | nil => simp [afterWord?] at h
  | cons w word ih =>
    cases u with
    | nil => simp [afterWord?] at h
    | cons c u =>
      rw [List.length_cons, List.take_succ_cons, afterWord?_cons] at h
      rw [List.cons_append, afterWord?_cons]
      by_cases same : (if foldCase then sameLetter w c else w = c) = true
      · rw [if_pos same] at h ⊢
        exact ih h
      · exact if_neg same

/-- **A word clashes with a text** if it starts nowhere in it, not even to go on behind it. -/
def Clashes (foldCase : Bool) (word text : List Char) : Prop :=
  ∀ n < text.length, afterWord? foldCase (word.take (text.drop n).length) (text.drop n) = none

instance (foldCase : Bool) (word text : List Char) : Decidable (Clashes foldCase word text) :=
  inferInstanceAs (Decidable (∀ n < text.length, _))

theorem Clashes.afterWord?_eq_none {foldCase : Bool} {word text u : List Char}
    (clashes : Clashes foldCase word text) (left : u ≠ []) (suffix : u <:+ text) (v : List Char) :
    afterWord? foldCase word (u ++ v) = none := by
  obtain ⟨front, rfl⟩ := suffix
  have inside : front.length < (front ++ u).length := by
    rw [List.length_append]
    exact Nat.lt_add_of_pos_right (List.length_pos_iff.mpr left)
  have none := clashes front.length inside
  rw [List.drop_left] at none
  exact afterWord?_append_eq_none none v

theorem afterKey?_cons (foldCase : Bool) (word next : List Char) (words : List (List Char))
    (s : List Char) : afterKey? foldCase (word :: next :: words) s =
      (afterWord? foldCase word s).bind fun r =>
        afterKey? foldCase (next :: words) (dropOne isJoint r) :=
  rfl

theorem afterKey?_suffix {foldCase : Bool} {words : List (List Char)} {r : List Char}
    (h : afterKey? foldCase words s = some r) : r <:+ s := by
  induction words generalizing s with
  | nil => exact Option.some.inj h ▸ List.suffix_rfl
  | cons word words ih =>
    cases words with
    | nil => exact afterWord?_suffix h
    | cons next words =>
      obtain ⟨r', first, rest⟩ := Option.bind_eq_some_iff.mp h
      exact ((ih rest).trans (dropOne_suffix isJoint r')).trans (afterWord?_suffix first)

/-- So is a key whose words have no blanks. -/
theorem stops_afterKey? {words : List (List Char)} (foldCase : Bool)
    (solid : ∀ word ∈ words, word.any isBlank = false) :
    Stops T (afterKey? foldCase words) := by
  induction words with
  | nil => exact fun _ h => ⟨fun _ _ => rfl, fun r found => Option.some.inj found ▸ h⟩
  | cons word words ih =>
    obtain ⟨first, rest⟩ := List.forall_mem_cons.mp solid
    cases words with
    | nil => exact stops_afterWord? foldCase first
    | cons next words =>
      refine (stops_afterWord? foldCase first).bind fun s h => ?_
      simpa only [dropOne_append h] using ih rest _ (h.dropOne isBlank_of_isJoint)

/-! ## A rule with a key, part by part -/

namespace Keyed
variable {k : Keyed} {before : Option Char}

/-- **Nothing in a rule is blank**: neither the words of the key nor the separators nor the values.
And a value has no quotes, and is not empty. -/
structure Solid (k : Keyed) : Prop where
  words : ∀ word ∈ k.words, word.toList.any isBlank = false
  separator : ∀ c, k.separator c = true → isBlank c = false
  value : ∀ c, k.value c = true → isBlank c = false
  unquoted : ∀ c, k.value c = true → isQuote c = false
  least : 0 < k.least

/-- **A text stands apart from a rule**: it starts with none of the characters that may stand
between the key and the value. -/
def Apart (k : Keyed) (t : List Char) : Prop :=
  ∃ c ∈ t.head?, isBlank c = false ∧ isQuote c = false ∧ k.separator c = false

theorem Apart.append {w : List Char} (apart : k.Apart w) (u : List Char) : k.Apart (w ++ u) := by
  obtain ⟨c, head, apart⟩ := apart
  obtain ⟨rest, rfl⟩ := List.head?_eq_some_iff.mp head
  exact ⟨c, rfl, apart⟩

/-- What follows the key and the separator. -/
def afterSeparator? (k : Keyed) (s : List Char) : Option (List Char) :=
  (afterKey? k.foldCase (k.words.map String.toList) s).bind fun rest =>
    match rest.dropWhile isBlank with
    | [] => none
    | c :: rest => if k.separator c then some rest else none

/-- What takes the place of a value, and of what stands around it. -/
def veiled (s rest kept after : List Char) : Match where
  size := s.length - (dropOne isQuote after).length
  replacement := s.take (s.length - rest.length) ++ kept ++ mask ++
    after.take (after.length - (dropOne isQuote after).length)

/-- **A rule, part by part**, whatever its values are. -/
theorem rule_eq_bind (k : Keyed) (before : Option Char) (s : List Char) :
    k.rule before s = (k.afterSeparator? s).bind fun rest =>
      (k.valueAfterBlanks? (rest.takeWhile isBlank) (rest.dropWhile isBlank)).map fun value =>
        veiled s rest value.1 value.2 := by
  unfold rule afterSeparator?
  cases afterKey? k.foldCase (k.words.map String.toList) s with
  | none => rfl
  | some rest =>
    simp only [Option.bind_some]
    cases rest.dropWhile isBlank with
    | nil => rfl
    | cons c rest =>
      by_cases separates : k.separator c = true
      · simp only [separates, if_true, Option.bind_some]
        cases k.valueAfterBlanks? (rest.takeWhile isBlank) (rest.dropWhile isBlank) <;> rfl
      · simp only [separates, Bool.false_eq_true, if_false]
        rfl

/-- What is replaced, once the separator is passed: the blanks and the quote in front of the value
stay, and so does the quote behind it. -/
def replaced (s rest kept after : List Char) : Match :=
  { size := s.length - (dropOne isQuote after).length
    replacement := s.take (s.length - rest.length) ++ (rest.takeWhile isBlank ++ kept) ++ mask ++
      after.take (after.length - (dropOne isQuote after).length) }

/-- Blanks are left out of a value that has none. -/
theorem valueAfterBlanks?_eq (solid : k.Solid) {blanks : List Char}
    (blank : ∀ c ∈ blanks, isBlank c = true) (rest : List Char) :
    k.valueAfterBlanks? blanks rest =
      (k.valueAt? rest).map fun value => (blanks ++ value.1, value.2) := by
  induction blanks with
  | nil => simp [valueAfterBlanks?]
  | cons c blanks ih =>
    obtain ⟨head, blank⟩ := List.forall_mem_cons.mp blank
    -- no value starts with a blank
    have unquoted : isQuote c = false :=
      Bool.eq_false_iff.mpr fun quote => nomatch (isBlank_of_isQuote c quote).symm.trans head
    have outside : k.value c = false :=
      Bool.eq_false_iff.mpr fun inside => nomatch (solid.value c inside).symm.trans head
    have none : k.valueAt? (c :: blanks ++ rest) = none := by
      simp [valueAt?, dropOne, unquoted, outside, Nat.ne_of_gt solid.least]
    rw [valueAfterBlanks?, ih blank, none]
    cases k.valueAt? rest <;> rfl

/-- **A rule, part by part**, if its values have no blanks. -/
theorem rule_eq (solid : k.Solid) (before : Option Char) (s : List Char) :
    k.rule before s = (k.afterSeparator? s).bind fun rest =>
      (k.valueAt? (rest.dropWhile isBlank)).map fun value => replaced s rest value.1 value.2 := by
  rw [rule_eq_bind]
  refine congrArg _ (funext fun rest => ?_)
  rw [valueAfterBlanks?_eq solid (fun c mem => List.mem_takeWhile_imp mem), Option.map_map]
  rfl

/-! ## A rule with a key, on texts that end in a blank -/

/-- The separator is passed. -/
theorem afterSeparator?_suffix {r : List Char} (h : k.afterSeparator? s = some r) :
    ∃ c, k.separator c = true ∧ c :: r <:+ s := by
  obtain ⟨rest, keyed, found⟩ := Option.bind_eq_some_iff.mp h
  cases passed : rest.dropWhile isBlank with
  | nil => simp [passed] at found
  | cons c rest' =>
    by_cases separates : k.separator c = true
    · obtain rfl : rest' = r := by simpa [passed, separates] using found
      exact ⟨c, separates,
        (passed ▸ List.dropWhile_suffix isBlank).trans (afterKey?_suffix keyed)⟩
    · simp [passed, separates] at found

/-- The key and the separator are read up to a blank at most. -/
theorem stops_afterSeparator? (solid : k.Solid) (apart : ∀ t, T t → k.Apart t) :
    Stops T k.afterSeparator? := by
  intro s h
  refine ⟨fun t ht => ?_, fun r found => ?_⟩
  · obtain ⟨c, head, blank, -, separates⟩ := apart t ht
    obtain ⟨u, rfl⟩ := List.head?_eq_some_iff.mp head
    have words : ∀ word ∈ k.words.map String.toList, word.any isBlank = false :=
      List.forall_mem_map.mpr solid.words
    rw [afterSeparator?, afterSeparator?, (stops_afterKey? k.foldCase words s h).1 _ ht]
    cases afterKey? k.foldCase (k.words.map String.toList) s with
    | none => rfl
    | some rest =>
      simp only [Option.map_some, Option.bind_some, dropWhile_isBlank_append blank]
      cases rest.dropWhile isBlank with
      | nil => simp [separates]
      | cons d rest => by_cases hd : k.separator d = true <;> simp [hd]
  · obtain ⟨c, separates, suffix⟩ := afterSeparator?_suffix found
    exact (h.of_suffix suffix (List.cons_ne_nil c r)).tail (solid.separator c separates)

theorem drop_length_takeWhile (p : Char → Bool) (s : List Char) :
    s.drop (s.takeWhile p).length = s.dropWhile p := by
  induction s with
  | nil => rfl
  | cons c s ih => by_cases hc : p c = true <;> simp [hc, ih]

theorem valueAt?_eq (k : Keyed) (s : List Char) :
    k.valueAt? s = if k.least ≤ ((dropOne isQuote s).takeWhile k.value).length then
      some (s.take (s.length - (dropOne isQuote s).length), (dropOne isQuote s).dropWhile k.value)
      else none := by
  simp only [valueAt?, drop_length_takeWhile]

theorem parts_of_valueAt? {value : List Char × List Char} (h : k.valueAt? s = some value) :
    value.1 <+: s ∧ value.2 <:+ s := by
  rw [valueAt?_eq] at h
  split at h
  · obtain rfl := Option.some.inj h
    refine ⟨?_, (List.dropWhile_suffix k.value).trans (dropOne_suffix isQuote s)⟩
    exact List.take_prefix ..
  · exact nomatch h

/-- **A value in a text that ends in a blank** is over before that blank. -/
theorem valueAt?_append (solid : k.Solid) (h : EndsBlank s) (t : List Char) :
    k.valueAt? (s ++ t) = (k.valueAt? s).map fun value => (value.1, value.2 ++ t) := by
  have body : dropOne isQuote (s ++ t) = dropOne isQuote s ++ t := dropOne_append h t
  have rest := dropWhile_append solid.value (h.dropOne isBlank_of_isQuote) t
  rw [valueAt?_eq, valueAt?_eq, body, rest, takeWhile_append_of_dropWhile_append rest,
    take_length_sub_append]
  split <;> rfl

/-- What follows the value ends in the same blank. -/
theorem endsBlank_of_valueAt? {value : List Char × List Char} (solid : k.Solid) (h : EndsBlank s)
    (found : k.valueAt? s = some value) : EndsBlank value.2 := by
  rw [valueAt?_eq] at found
  split at found
  · obtain rfl := Option.some.inj found
    exact (h.dropOne isBlank_of_isQuote).dropWhile solid.value
  · exact nomatch found

/-- What is replaced is the same, whatever follows. -/
theorem replaced_append {rest kept after : List Char} (h : EndsBlank after)
    (passed : (rest ++ t).dropWhile isBlank = rest.dropWhile isBlank ++ t) :
    replaced (s ++ t) (rest ++ t) kept (after ++ t) = replaced s rest kept after := by
  simp only [replaced, dropOne_append h, take_length_sub_append,
    takeWhile_append_of_dropWhile_append passed]
  rw [List.length_append, List.length_append, Nat.add_sub_add_right]

/-- There is no value in nothing. -/
theorem valueAt?_nil (solid : k.Solid) : k.valueAt? [] = none := by
  rw [valueAt?_eq]
  exact if_neg (Nat.not_le.mpr solid.least)

/-- A match in a text that ends in a blank ends before that blank. -/
theorem size_of_rule {m : Match} (solid : k.Solid) (h : EndsBlank s)
    (found : k.rule before s = some m) : 0 < m.size ∧ m.size < s.length := by
  rw [rule_eq solid] at found
  obtain ⟨rest, separated, found⟩ := Option.bind_eq_some_iff.mp found
  obtain ⟨value, valued, rfl⟩ := Option.map_eq_some_iff.mp found
  have blank := (stops_afterSeparator? (T := fun _ => False) solid nofun s h).2 rest separated
  have left : rest.dropWhile isBlank ≠ [] := by
    intro none
    rw [none, valueAt?_nil solid] at valued
    exact nomatch valued
  have last := (endsBlank_of_valueAt? solid
    (blank.of_suffix (List.dropWhile_suffix isBlank) left) valued).dropOne isBlank_of_isQuote
  obtain ⟨c, -, suffix⟩ := afterSeparator?_suffix separated
  have shorter : rest.length < s.length := suffix.length_le
  have bound := (((dropOne_suffix isQuote value.2).trans (parts_of_valueAt? valued).2).trans
    (List.dropWhile_suffix isBlank)).length_le
  have some := List.length_pos_iff.mpr last.ne_nil
  simp only [replaced]
  omega

/-! ## What follows the blank -/

/-- **A text does not start with a value**, or not with one that is long enough. -/
def Narrow (k : Keyed) (t : List Char) : Prop := (t.takeWhile k.value).length < k.least

/-- **A text is a value** as a whole. -/
def Wide (k : Keyed) (t : List Char) : Prop := (∀ c ∈ t, k.value c = true) ∧ k.least ≤ t.length

theorem Apart.dropWhile_isBlank (apart : k.Apart t) (s : List Char) :
    (s ++ t).dropWhile isBlank = s.dropWhile isBlank ++ t := by
  obtain ⟨c, head, solid, -⟩ := apart
  obtain ⟨u, rfl⟩ := List.head?_eq_some_iff.mp head
  exact dropWhile_isBlank_append solid s

theorem length_takeWhile_append_le {p : Char → Bool} {w u : List Char} {d : Char}
    (stop : p d = false) : ((w ++ d :: u).takeWhile p).length ≤ w.length := by
  induction w with
  | nil => simp [stop]
  | cons c w ih => by_cases hc : p c = true <;> simp [hc, ih]

/-- A text does not start with a value if it soon goes on with something else. -/
theorem narrow_of_append {w u : List Char} {d : Char} (stop : k.value d = false)
    (short : w.length < k.least) : k.Narrow (w ++ d :: u) :=
  Nat.lt_of_le_of_lt (length_takeWhile_append_le stop) short

theorem valueAt?_of_narrow (apart : k.Apart t) (narrow : k.Narrow t) : k.valueAt? t = none := by
  obtain ⟨c, head, -, unquoted, -⟩ := apart
  obtain ⟨u, rfl⟩ := List.head?_eq_some_iff.mp head
  have body : dropOne isQuote (c :: u) = c :: u := by simp [dropOne, unquoted]
  rw [valueAt?_eq, body, if_neg (Nat.not_le.mpr narrow)]

theorem valueAt?_of_wide (solid : k.Solid) (wide : k.Wide t) : k.valueAt? t = some ([], []) := by
  have body : dropOne isQuote t = t := by
    cases t with
    | nil => rfl
    | cons c u => simp [dropOne, solid.unquoted c (wide.1 c List.mem_cons_self)]
  have all : t.takeWhile k.value = t := List.takeWhile_eq_self_iff.mpr wide.1
  have none : t.dropWhile k.value = [] := List.dropWhile_eq_nil_iff.mpr wide.1
  rw [valueAt?_eq, body, all, none, if_pos wide.2, Nat.sub_self, List.take_zero]

/-- **A rule with a key is steady** before texts that stand apart from it, if they are all values as
a whole, or none of them starts with one. -/
theorem steady_rule (solid : k.Solid) (apart : ∀ t, T t → k.Apart t)
    (even : (∀ t, T t → k.Narrow t) ∨ ∀ t, T t → k.Wide t) : Steady k.rule T := by
  refine ⟨fun h found => size_of_rule solid h found, fun before s h => ?_⟩
  obtain ⟨blind, left⟩ := stops_afterSeparator? solid apart s h
  simp only [rule_eq solid]
  cases separated : k.afterSeparator? s with
  | none => exact .inl fun t ht => by rw [blind t ht, separated]; rfl
  | some rest =>
    have passed (t) (ht : T t) := (apart t ht).dropWhile_isBlank rest
    have read (t) (ht : T t) : k.afterSeparator? (s ++ t) = some (rest ++ t) := by
      rw [blind t ht, separated, Option.map_some]
    by_cases onlyBlanks : rest.dropWhile isBlank = []
    · -- the value is looked for in what follows
      obtain narrow | wide := even
      · refine .inl fun t ht => ?_
        rw [read t ht, Option.bind_some, Option.bind_some, passed t ht, onlyBlanks, List.nil_append,
          valueAt?_of_narrow (apart t ht) (narrow t ht), valueAt?_nil solid]
        rfl
      · refine .inr ⟨s.take (s.length - rest.length) ++ rest.takeWhile isBlank ++ mask,
          fun t ht => ?_⟩
        rw [read t ht, Option.bind_some, passed t ht, onlyBlanks, List.nil_append,
          valueAt?_of_wide solid (wide t ht), Option.map_some, replaced,
          take_length_sub_append, takeWhile_append_of_dropWhile_append (passed t ht)]
        simp [dropOne]
    · have behind : EndsBlank (rest.dropWhile isBlank) :=
        (left rest separated).of_suffix (List.dropWhile_suffix isBlank) onlyBlanks
      refine .inl fun t ht => ?_
      rw [read t ht, Option.bind_some, Option.bind_some, passed t ht, valueAt?_append solid behind,
        Option.map_map]
      cases valued : k.valueAt? (rest.dropWhile isBlank) with
      | none => rfl
      | some value =>
        exact congrArg some
          (replaced_append (endsBlank_of_valueAt? solid behind valued) (passed t ht))

/-! ## Where a rule with a key matches -/

/-- **A value behind its key** is masked. -/
theorem rule_of_wide {key v : List Char} (solid : k.Solid) (wide : k.Wide v)
    (read : k.afterSeparator? (key ++ v) = some v) :
    k.rule before (key ++ v) = some ⟨(key ++ v).length, key ++ mask⟩ := by
  have full : v.takeWhile isBlank = [] ∧ v.dropWhile isBlank = v := by
    cases v with
    | nil => exact ⟨rfl, rfl⟩
    | cons c u => simp [solid.value c (wide.1 c List.mem_cons_self)]
  rw [rule_eq solid, read, Option.bind_some, full.2, valueAt?_of_wide solid wide, Option.map_some,
    replaced, full.1]
  simp [dropOne]

/-- There is no match without a separator. -/
theorem rule_eq_none_of_separator (solid : k.Solid) (h : ∀ c ∈ s, k.separator c = false) :
    k.rule before s = none := by
  rw [rule_eq solid]
  cases found : k.afterSeparator? s with
  | none => rfl
  | some r =>
    obtain ⟨c, separates, suffix⟩ := afterSeparator?_suffix found
    exact nomatch (h c (suffix.subset List.mem_cons_self)).symm.trans separates

/-- Where its first word clashes with a text, a rule matches nowhere in the text. -/
theorem rule_eq_none_of_clashes {word : String} {words : List String} {text u : List Char}
    (first : k.words = word :: words) (clashes : Clashes k.foldCase word.toList text)
    (left : u ≠ []) (suffix : u <:+ text) (v : List Char) : k.rule before (u ++ v) = none := by
  have wordless := clashes.afterWord?_eq_none left suffix v
  have keyless : afterKey? k.foldCase (k.words.map String.toList) (u ++ v) = none := by
    rw [first]
    cases words with
    | nil => exact wordless
    | cons next words =>
      rw [List.map_cons, List.map_cons, afterKey?_cons, wordless]
      rfl
  rw [rule, keyless]

/-- What is put in is the mask, and what was there. -/
theorem mem_of_mem_replacement {m : Match} {c : Char} (solid : k.Solid)
    (found : k.rule before s = some m) (mem : c ∈ m.replacement) : c ∈ s ∨ c ∈ mask := by
  rw [rule_eq solid] at found
  obtain ⟨rest, separated, found⟩ := Option.bind_eq_some_iff.mp found
  obtain ⟨value, valued, rfl⟩ := Option.map_eq_some_iff.mp found
  obtain ⟨d, -, suffix⟩ := afterSeparator?_suffix separated
  have inRest {c : Char} (h : c ∈ rest) : c ∈ s := suffix.subset (List.mem_cons_of_mem d h)
  have behind {c : Char} (h : c ∈ rest.dropWhile isBlank) : c ∈ s :=
    inRest ((List.dropWhile_suffix isBlank).subset h)
  obtain ⟨kept, after⟩ := parts_of_valueAt? valued
  have blanks := List.takeWhile_prefix (l := rest) isBlank
  simp only [replaced, List.mem_append] at mem
  obtain ((front | blank | quote) | masked) | closing := mem
  · exact .inl (List.mem_of_mem_take front)
  · exact .inl (inRest (blanks.subset blank))
  · exact .inl (behind (kept.subset quote))
  · exact .inr masked
  · have inAfter : c ∈ value.2 := List.mem_of_mem_take closing
    exact .inl (behind (after.subset inAfter))

/-- Something is put in. -/
theorem replacement_ne_nil {m : Match} (solid : k.Solid) (found : k.rule before s = some m) :
    m.replacement ≠ [] := by
  rw [rule_eq solid] at found
  obtain ⟨rest, _, found⟩ := Option.bind_eq_some_iff.mp found
  obtain ⟨value, _, rfl⟩ := Option.map_eq_some_iff.mp found
  have masked : mask ≠ [] := by decide
  simp [replaced, masked]

/-! ## Values behind another key, and behind the rule's own -/

section Keys
variable {w : List Char} {d : Char} {Value : List Char → Prop} (solid : k.Solid) (apart : k.Apart w)
  (even : k.value d = false ∧ w.length < k.least ∨ ∀ v, Value v → k.Wide (w ++ [d] ++ v))
include solid apart even

theorem steady_behind : Steady k.rule (Behind (w ++ [d]) Value) := by
  refine steady_rule solid ?_ (even.imp ?_ ?_)
  · rintro t ⟨v, -, rfl⟩
    rw [List.append_assoc]
    exact apart.append _
  · rintro ⟨stop, short⟩ t ⟨v, -, rfl⟩
    rw [List.append_assoc]
    exact narrow_of_append stop short
  · rintro wide t ⟨v, h, rfl⟩
    exact wide v h

/-- **A rule with a key keeps another key**, if its first word clashes with that. -/
theorem keeps {word : String} {words : List String} (first : k.words = word :: words)
    (clashes : Clashes k.foldCase word.toList (w ++ [d]))
    (closed : ∀ before v, Value v → Value (replaceFrom k.rule before 0 v)) :
    Keeps k.rule (w ++ [d]) Value where
  steady := steady_behind solid apart even
  unmatched _ _ v left suffix _ := rule_eq_none_of_clashes first clashes left suffix v
  closed before _ h := closed before _ h

/-- **A rule with a key hides the values behind it.** -/
theorem hides (wide : ∀ v, Value v → k.Wide v)
    (read : ∀ v, k.afterSeparator? (w ++ [d] ++ v) = some v) :
    Hides k.rule (w ++ [d]) Value where
  steady := steady_behind solid apart even
  named := List.append_ne_nil_of_right_ne_nil w (List.cons_ne_nil d [])
  hidden := ⟨_, fun _ v h => rule_of_wide solid (wide v h) (read v)⟩

end Keys

end Keyed
end LoginGate.Redact
