import LoginGate.Http.Cookie
import LoginGate.Proofs.Utf8
import Mathlib.Data.List.TakeWhile

/-!
# Proofs/Http/Cookies — a cookie that is set is read back

A value is written as it is or between quotes, with every byte that would end it or its pair
escaped, so the reader finds the closing quote and undoes the escapes; that goes for any value. A
name is written as its bytes and is never quoted, and the reader lets no name with a blank, a quote
or a separator pass. So a cookie is read back exactly if its name is in ASCII and has none of these
(`Readable`).
-/

namespace LoginGate.Http

namespace SetCookie

open Cookies

/-! ## Bytes between quotes -/

/-- **The ways in which a byte is written** between quotes: as the character that it is, as that
character with a mark in front, or as three octal digits. None of them has a semicolon in it, and
none looks like a closing quote. -/
inductive Written (b : UInt8) : List Char → Prop where
  | plain {c : Char} (quote : c ≠ '"') (slash : c ≠ '\\') (mark : c ≠ ';')
    (byte : Bytes.utf8 [c] = [b]) : Written b [c]
  | marked {c : Char} (digit : octal? c = none) (mark : c ≠ ';') (byte : Bytes.utf8 [c] = [b]) :
    Written b ['\\', c]
  | octal {x y z : Char} (quote : '"' ∉ [x, y, z]) (slash : '\\' ∉ [x, y, z])
    (mark : ';' ∉ [x, y, z]) (byte : octalByte? x y z = some b) : Written b ['\\', x, y, z]

theorem toNat_ofNat_byte (b : UInt8) : (Char.ofNat b.toNat).toNat = b.toNat := by
  have valid : b.toNat.isValidChar := .inl (by have := b.toNat_lt; omega)
  rw [Char.ofNat, dif_pos valid]
  rfl

/-- A character of ASCII is its byte. -/
theorem utf8_of_ascii {b : UInt8} (h : b.toNat < 128) :
    Bytes.utf8 [Char.ofNat b.toNat] = [b] := by
  have value : (Char.ofNat b.toNat).val.toNat = b.toNat := toNat_ofNat_byte b
  simp only [Bytes.utf8, List.flatMap_cons, List.flatMap_nil, List.append_nil,
    String.utf8EncodeChar, value]
  rw [if_pos (by omega), UInt8.ofNat_toNat]

/-- The digits of a byte give the byte. -/
theorem octalByte?_digits (b : UInt8) :
    octalByte? (Char.ofNat (48 + b.toNat / 64)) (Char.ofNat (48 + b.toNat / 8 % 8))
      (Char.ofNat (48 + b.toNat % 8)) = some b := by
  have digit : ∀ d < 8, octal? (Char.ofNat (48 + d)) = some d := by decide
  have bound := b.toNat_lt
  have sum : (b.toNat / 64 * 8 + b.toNat / 8 % 8) * 8 + b.toNat % 8 = b.toNat := by omega
  unfold octalByte?
  rw [digit _ (by omega), digit _ (by omega), digit _ (by omega)]
  simp only
  rw [if_pos (by omega), sum, UInt8.ofNat_toNat]

/-- A quote and a mark are written with a mark before them. -/
theorem written_marked {b : UInt8}
    (special : Char.ofNat b.toNat = '"' ∨ Char.ofNat b.toNat = '\\') :
    Written b ['\\', Char.ofNat b.toNat] := by
  have value := toNat_ofNat_byte b
  have byte {c : Char} (same : Char.ofNat b.toNat = c) (ascii : c.toNat < 128) :
      Bytes.utf8 [Char.ofNat b.toNat] = [b] :=
    utf8_of_ascii (value ▸ same ▸ ascii)
  obtain same | same := special
  · exact .marked (same ▸ by decide) (same ▸ by decide) (byte same (by decide))
  · exact .marked (same ▸ by decide) (same ▸ by decide) (byte same (by decide))

/-- None of the digits of a byte ends a value, or a quotation. -/
theorem written_digits (b : UInt8) : Written b ['\\', Char.ofNat (48 + b.toNat / 64),
    Char.ofNat (48 + b.toNat / 8 % 8), Char.ofNat (48 + b.toNat % 8)] := by
  have bound := b.toNat_lt
  have digit : ∀ d < 8, '"' ≠ Char.ofNat (48 + d) ∧ '\\' ≠ Char.ofNat (48 + d) ∧
    ';' ≠ Char.ofNat (48 + d) := by decide
  obtain ⟨x₁, x₂, x₃⟩ := digit (b.toNat / 64) (by omega)
  obtain ⟨y₁, y₂, y₃⟩ := digit (b.toNat / 8 % 8) (by omega)
  obtain ⟨z₁, z₂, z₃⟩ := digit (b.toNat % 8) (by omega)
  refine .octal ?_ ?_ ?_ (octalByte?_digits b)
  · simp [x₁, y₁, z₁]
  · simp [x₂, y₂, z₂]
  · simp [x₃, y₃, z₃]

theorem written_escapeByte (b : UInt8) : Written b (escapeByte b) := by
  unfold escapeByte
  simp only
  split
  · next special => exact written_marked special
  split
  · exact written_digits b
  · next plain other =>
    simp only [not_or] at plain other
    refine .plain plain.1 plain.2 other.2.2.1 (utf8_of_ascii ?_)
    have small := other.2.2.2
    rw [UInt8.le_iff_toNat_le] at small
    change ¬ 127 ≤ b.toNat at small
    omega

/-- The inside of a quoted value. -/
def escaped (bytes : List UInt8) : List Char := bytes.flatMap escapeByte

theorem escaped_cons (b : UInt8) (bytes : List UInt8) :
    escaped (b :: bytes) = escapeByte b ++ escaped bytes := List.flatMap_cons

theorem semicolon_notMem_escaped (bytes : List UInt8) : ';' ∉ escaped bytes := by
  intro mem
  obtain ⟨b, -, mem⟩ := List.mem_flatMap.mp mem
  have written := written_escapeByte b
  generalize escapeByte b = text at written mem
  cases written with
  | plain quote slash mark => exact mark (List.mem_singleton.mp mem).symm
  | marked digit mark =>
    rcases List.mem_cons.mp mem with same | mem
    · exact absurd same (by decide)
    · exact mark (List.mem_singleton.mp mem).symm
  | octal quote slash mark =>
    rcases List.mem_cons.mp mem with same | mem
    · exact absurd same (by decide)
    · exact mark mem

end SetCookie

namespace Cookies

open SetCookie

theorem quoted?_slash (c : Char) (rest : List Char) :
    quoted? ('\\' :: c :: rest) = (quoted? rest).map fun p => ('\\' :: c :: p.1, p.2) := by
  rw [quoted?]

theorem quoted?_cons {c : Char} (quote : c ≠ '"') (slash : c ≠ '\\') (rest : List Char) :
    quoted? (c :: rest) = (quoted? rest).map fun p => (c :: p.1, p.2) := by
  rw [quoted?]
  · exact quote
  · exact fun _ _ same => absurd same slash

/-- **The reader finds the closing quote.** -/
theorem quoted?_escaped (bytes : List UInt8) (rest : List Char) :
    quoted? (escaped bytes ++ '"' :: rest) = some (escaped bytes, rest) := by
  induction bytes with
  | nil => rfl
  | cons b bytes ih =>
    have written := written_escapeByte b
    rw [escaped_cons, List.append_assoc]
    generalize escapeByte b = text at written ⊢
    cases written with
    | plain quote slash => simp [quoted?_cons quote slash, ih]
    | marked => simp [quoted?_slash, ih]
    | octal quote slash =>
      simp only [List.mem_cons, List.not_mem_nil, or_false, not_or] at quote slash
      simp [quoted?_slash, quoted?_cons (Ne.symm quote.2.1) (Ne.symm slash.2.1),
        quoted?_cons (Ne.symm quote.2.2) (Ne.symm slash.2.2), ih]

/-- A marked character that is no digit stands for itself. -/
theorem unescape_marked {c : Char} (digit : octal? c = none) (rest : List Char) :
    unescape ('\\' :: c :: rest) = Bytes.utf8 [c] ++ unescape rest := by
  match rest with
  | [] => rw [unescape]; simp [unescape]
  | [d] => rw [unescape]; simp
  | d :: e :: rest =>
    have none : octalByte? c d e = none := by rw [octalByte?, digit]
    rw [unescape, none]

/-- **The reader undoes the escapes.** -/
theorem unescape_escaped (bytes : List UInt8) : unescape (escaped bytes) = bytes := by
  induction bytes with
  | nil => rfl
  | cons b bytes ih =>
    have written := written_escapeByte b
    rw [escaped_cons]
    generalize escapeByte b = text at written ⊢
    cases written with
    | @plain c quote slash mark byte =>
      have step : unescape (c :: escaped bytes) = Bytes.utf8 [c] ++ unescape (escaped bytes) := by
        rw [unescape]
        · exact fun _ _ _ _ same => absurd same slash
        · exact fun _ _ same => absurd same slash
      rw [List.singleton_append, step, byte, ih]
      rfl
    | marked digit mark byte =>
      rw [List.cons_append, List.singleton_append, unescape_marked digit, byte, ih]
      rfl
    | octal quote slash mark byte =>
      rw [List.cons_append, List.cons_append, List.cons_append, List.singleton_append, unescape,
        byte]
      exact congrArg _ ih

/-! ## Pairs -/

/-- **A name that the reader lets pass**: it is not empty and has no blank, no quote and no
separator in it. -/
structure IsName (name : List Char) : Prop where
  ne_nil : name ≠ []
  plain : isPlain name = true
  noEquals : '=' ∉ name
  noSemicolon : ';' ∉ name

theorem trim_of_isPlain {s : List Char} (h : isPlain s = true) : trim s = s := by
  have blank : ∀ c ∈ s, isSpace c = false := by
    intro c mem
    have fit := List.all_eq_true.mp h c mem
    simp only [Bool.and_eq_true, Bool.not_eq_true'] at fit
    exact fit.1
  exact Text.trimWhile_eq_self (fun c mem => blank c (List.mem_of_mem_head? mem))
    fun c mem => blank c (List.mem_of_mem_getLast? mem)

theorem mem_of_mem_trim {c : Char} {s : List Char} (h : c ∈ trim s) : c ∈ s := by
  have mem := (List.dropWhile_sublist _).subset (List.mem_reverse.mp h)
  exact (List.dropWhile_sublist _).subset (List.mem_reverse.mp mem)

/-- A text up to a separator has none. -/
theorem notMem_takeWhile (sep : Char) (s : List Char) : sep ∉ s.takeWhile (· ≠ sep) := by
  intro mem
  have other := List.mem_takeWhile_imp mem
  simp at other

theorem takeWhile_of_notMem {sep : Char} {s : List Char} (h : sep ∉ s) :
    s.takeWhile (· ≠ sep) = s := by
  refine List.takeWhile_eq_self_iff.mpr fun c mem => ?_
  simp only [ne_eq, decide_not, Bool.not_eq_true', decide_eq_false_iff_not]
  rintro rfl
  exact h mem

theorem takeWhile_append {sep : Char} {before : List Char} (h : sep ∉ before) (after : List Char) :
    (before ++ sep :: after).takeWhile (· ≠ sep) = before := by
  rw [List.takeWhile_append_of_pos, List.takeWhile_cons_of_neg, List.append_nil]
  · simp
  · intro c mem
    simp only [ne_eq, decide_not, Bool.not_eq_true', decide_eq_false_iff_not]
    rintro rfl
    exact h mem

/-- **Whatever is read has such a name.** -/
theorem isName_of_mem_pair {s : List Char} {p : List Char × List Char} (h : p ∈ (pair s).1) :
    IsName p.1 := by
  unfold pair at h
  simp only at h
  split at h
  · exact absurd h List.not_mem_nil
  next fit =>
  simp only [Bool.or_eq_true, decide_eq_true_eq, Bool.not_eq_true', not_or,
    Bool.not_eq_false] at fit
  -- whichever way the value is read, the name is the same
  have name : p.1 = trim ((s.takeWhile (· ≠ ';')).takeWhile (· ≠ '=')) := by
    have of_plain {fits : Bool} {n v : List Char}
        (h : p ∈ if fits then [(n, v)] else []) : p.1 = n := by
      split at h
      · rw [List.mem_singleton.mp h]
      · exact absurd h List.not_mem_nil
    split at h
    · split at h
      · exact of_plain h
      · split at h
        · exact of_plain h
        · rw [List.mem_singleton.mp h]
    · exact of_plain h
  rw [name]
  refine ⟨fit.1, fit.2, fun mem => ?_, fun mem => ?_⟩
  · exact notMem_takeWhile '=' _ (mem_of_mem_trim mem)
  · have mem := (List.takeWhile_sublist _).subset (mem_of_mem_trim mem)
    exact notMem_takeWhile ';' _ mem

theorem isName_of_mem_pairsFrom {fuel : Nat} {s : List Char} {p : List Char × List Char}
    (h : p ∈ pairsFrom fuel s) : IsName p.1 := by
  induction fuel generalizing s with
  | zero => exact absurd h List.not_mem_nil
  | succ fuel ih =>
    cases s with
    | nil => exact absurd h List.not_mem_nil
    | cons c rest =>
      rcases List.mem_append.mp h with h | h
      · exact isName_of_mem_pair h
      · exact ih h

/-- No cookie is found under any other name. -/
theorem get_of_not_isName {name : String} (h : ¬ IsName name.toList) (field : String) :
    get field name = "" := by
  unfold get
  cases found : (pairs field.toList).find? fun p => p.1 = name.toList with
  | none => rfl
  | some p =>
    have same : p.1 = name.toList := by simpa using List.find?_some found
    exact absurd (same ▸ isName_of_mem_pairsFrom (List.mem_of_find?_eq_some found)) h

/-- A value is written as it is, with nothing in it that could be mistaken, or between quotes. -/
inductive ValueText (value : String) : List Char → Prop where
  | bare {c : Char} {rest : List Char} (same : value.toList = c :: rest)
    (plain : isPlain (c :: rest) = true) (mark : ';' ∉ c :: rest) : ValueText value (c :: rest)
  | quoted : ValueText value ('"' :: (escaped (Bytes.ofText value) ++ ['"']))

theorem valueText_spec {value : String} (ne : value ≠ "") :
    ValueText value (valueText value).toList := by
  unfold valueText
  split
  · next fit =>
    have noBlank : ∀ c : Char, isValueChar c = true → isSpace c = false ∧ c ≠ '"' ∧ c ≠ ';' := by
      intro c hc
      refine ⟨?_, ?_, ?_⟩
      · cases space : isSpace c with
        | false => rfl
        | true =>
          simp only [isSpace, Bool.or_eq_true, decide_eq_true_eq] at space
          obtain rfl | rfl := space
          · exact absurd hc (by decide)
          · exact absurd hc (by decide)
      · rintro rfl
        exact absurd hc (by decide)
      · rintro rfl
        exact absurd hc (by decide)
    cases chars : value.toList with
    | nil => exact absurd (String.toList_injective chars) ne
    | cons c rest =>
      rw [chars] at fit
      have fit := List.all_eq_true.mp fit
      refine .bare chars (List.all_eq_true.mpr fun d mem => ?_) fun mem => ?_
      · obtain ⟨space, quote, -⟩ := noBlank d (fit d mem)
        simp [space, quote]
      · exact (noBlank _ (fit _ mem)).2.2 rfl
  · rw [String.toList_ofList]
    exact .quoted

theorem ValueText.noSemicolon {value : String} {text : List Char} (h : ValueText value text) :
    ';' ∉ text := by
  cases h with
  | bare same plain mark => exact mark
  | quoted =>
    rw [List.mem_cons, List.mem_append, List.mem_singleton]
    rintro (same | mem | same)
    · exact absurd same (by decide)
    · exact semicolon_notMem_escaped _ mem
    · exact absurd same (by decide)

/-- **A pair is read back** if its name can be read: a bare value as it stands, and a quoted one
without its escapes. -/
theorem pair_of_valueText {name : List Char} (isName : IsName name) {value : String}
    {text : List Char} (h : ValueText value text) :
    pair (name ++ '=' :: text) = ([(name, value.toList)], []) := by
  have whole : (name ++ '=' :: text).takeWhile (· ≠ ';') = name ++ '=' :: text := by
    refine takeWhile_of_notMem fun mem => ?_
    rcases List.mem_append.mp mem with mem | mem
    · exact isName.noSemicolon mem
    · rcases List.mem_cons.mp mem with same | mem
      · exact absurd same (by decide)
      · exact h.noSemicolon mem
  have before := takeWhile_append isName.noEquals text
  have after : (name ++ '=' :: text).drop (name.length + 1) = text := by
    rw [List.drop_append, List.drop_of_length_le (Nat.le_succ _)]
    simp
  have rest : (name ++ '=' :: text).drop ((name ++ '=' :: text).length + 1) = [] :=
    List.drop_of_length_le (Nat.le_succ _)
  unfold pair
  simp only [whole, before, after, rest, trim_of_isPlain isName.plain, isName.ne_nil, isName.plain,
    decide_false, Bool.not_true, Bool.or_self, Bool.false_eq_true, if_false]
  cases h with
  | @bare c tail same plain mark =>
    have first := List.all_eq_true.mp plain c List.mem_cons_self
    simp only [Bool.and_eq_true, Bool.not_eq_true', bne_iff_ne] at first
    rw [trim_of_isPlain plain, if_pos plain, List.dropWhile_cons_of_neg (by simp [first.1]), ← same]
    split
    · next inside opened =>
      rw [same] at opened
      exact absurd (List.cons.inj opened).1 first.2
    · rfl
  | quoted =>
    have opened : ('"' :: (escaped (Bytes.ofText value) ++ ['"'])).dropWhile isSpace =
        '"' :: (escaped (Bytes.ofText value) ++ ['"']) := rfl
    rw [opened]
    simp only [quoted?_escaped, unescape_escaped]
    simp only [afterPair?, List.dropWhile_nil, Bytes.ofText, Bytes.lossy_utf8]

/-- A text that is one pair has one cookie. -/
theorem get_of_pair {text : String} {name value : List Char}
    (h : pair text.toList = ([(name, value)], [])) (asked : String) :
    get text asked = if name = asked.toList then String.ofList value else "" := by
  have one : pairs text.toList = [(name, value)] := by
    unfold pairs
    cases chars : text.toList with
    | nil => exact nomatch chars ▸ h
    | cons c rest =>
      rw [chars] at h
      have none (fuel : Nat) : pairsFrom fuel [] = [] := by cases fuel <;> rfl
      rw [pairsFrom, h, none]
      · rfl
      · exact nofun
  unfold get
  rw [one, List.find?_cons]
  by_cases same : name = asked.toList
  · simp [same]
  · simp [same]

end Cookies

namespace SetCookie

open Cookies

/-! ## Names -/

theorem utf8EncodeChar_of_ascii {c : Char} (h : c.toNat < 128) :
    String.utf8EncodeChar c = [UInt8.ofNat c.toNat] := by
  have small : c.val.toNat ≤ 127 := Nat.lt_succ_iff.mp h
  simp only [String.utf8EncodeChar]
  rw [if_pos small]
  rfl

/-- Any other character takes two bytes or more, none of them in ASCII. -/
theorem utf8EncodeChar_of_wide {c : Char} (h : 128 ≤ c.toNat) :
    1 < (String.utf8EncodeChar c).length ∧ ∀ b ∈ String.utf8EncodeChar c, 128 ≤ b.toNat := by
  have wide : ¬ c.val.toNat ≤ 127 := Nat.not_le.mpr h
  have high {n : Nat} (lower : 128 ≤ n) (upper : n < 256) : 128 ≤ (UInt8.ofNat n).toNat := by
    rwa [UInt8.toNat_ofNat', Nat.mod_eq_of_lt upper]
  have bound : c.val.toNat < 0x110000 := by
    obtain small | ⟨-, small⟩ := c.valid
    · exact Nat.lt_trans small (by decide)
    · exact small
  simp only [String.utf8EncodeChar]
  rw [if_neg wide]
  split
  · refine ⟨by simp, fun b mem => ?_⟩
    simp only [List.mem_cons, List.not_mem_nil, or_false] at mem
    obtain rfl | rfl := mem <;> exact high (by omega) (by omega)
  split
  · refine ⟨by simp, fun b mem => ?_⟩
    simp only [List.mem_cons, List.not_mem_nil, or_false] at mem
    obtain rfl | rfl | rfl := mem <;> exact high (by omega) (by omega)
  · refine ⟨by simp, fun b mem => ?_⟩
    simp only [List.mem_cons, List.not_mem_nil, or_false] at mem
    obtain rfl | rfl | rfl | rfl := mem <;> exact high (by omega) (by omega)

theorem toList_nameText (name : String) :
    (nameText name).toList = (Bytes.utf8 name.toList).map fun b => Char.ofNat b.toNat := by
  rw [nameText, String.toList_ofList, Bytes.ofText]

/-- What is written for a name has the characters of the name, and others that are not in ASCII. -/
theorem mem_nameText {name : String} {c : Char} (h : c ∈ (nameText name).toList) :
    c ∈ name.toList ∨ 128 ≤ c.toNat := by
  rw [toList_nameText] at h
  obtain ⟨b, mem, rfl⟩ := List.mem_map.mp h
  obtain ⟨d, there, mem⟩ := List.mem_flatMap.mp mem
  by_cases ascii : d.toNat < 128
  · rw [utf8EncodeChar_of_ascii ascii] at mem
    obtain rfl := List.mem_singleton.mp mem
    rw [UInt8.toNat_ofNat', Nat.mod_eq_of_lt (by omega), Char.ofNat_toNat]
    exact .inl there
  · rw [toNat_ofNat_byte]
    exact .inr ((utf8EncodeChar_of_wide (Nat.not_lt.mp ascii)).2 b mem)

/-- **A name is written as it is** if it is in ASCII. -/
theorem nameText_of_ascii {name : String} (h : ∀ c ∈ name.toList, c.toNat < 128) :
    nameText name = name := by
  refine String.toList_injective ?_
  rw [toList_nameText]
  generalize name.toList = cs at h
  induction cs with
  | nil => rfl
  | cons c cs ih =>
    have ascii := h c List.mem_cons_self
    rw [Bytes.utf8, List.flatMap_cons, utf8EncodeChar_of_ascii ascii, List.singleton_append,
      List.map_cons, UInt8.toNat_ofNat', Nat.mod_eq_of_lt (by omega), Char.ofNat_toNat]
    exact congrArg _ (ih fun d mem => h d (List.mem_cons_of_mem _ mem))

/-- No text has fewer bytes than characters, and only those in ASCII have as many. -/
theorem length_utf8 (cs : List Char) : cs.length ≤ (Bytes.utf8 cs).length ∧
    ((Bytes.utf8 cs).length = cs.length → ∀ c ∈ cs, c.toNat < 128) := by
  induction cs with
  | nil => exact ⟨Nat.le_refl _, fun _ c mem => absurd mem List.not_mem_nil⟩
  | cons c cs ih =>
    obtain ⟨le, ascii⟩ := ih
    have sum : (Bytes.utf8 (c :: cs)).length =
        (String.utf8EncodeChar c).length + (Bytes.utf8 cs).length := by
      rw [Bytes.utf8, List.flatMap_cons, List.length_append]
      rfl
    rw [sum, List.length_cons]
    by_cases small : c.toNat < 128
    · rw [utf8EncodeChar_of_ascii small, List.length_singleton]
      refine ⟨by omega, fun same d mem => ?_⟩
      obtain rfl | mem := List.mem_cons.mp mem
      · exact small
      · exact ascii (by omega) d mem
    · have more := (utf8EncodeChar_of_wide (Nat.not_lt.mp small)).1
      exact ⟨by omega, fun same => absurd same (by omega)⟩

/-- What is written for a name that can be read can be read as well. -/
theorem isName_nameText {name : String} (h : IsName name.toList) :
    IsName (nameText name).toList := by
  have other {c : Char} (wide : 128 ≤ c.toNat) (d : Char) (narrow : d.toNat < 128) : c ≠ d := by
    rintro rfl
    omega
  constructor
  · intro empty
    have length := congrArg List.length empty
    rw [toList_nameText, List.length_map] at length
    have le := (length_utf8 name.toList).1
    rw [length] at le
    exact h.ne_nil (List.length_eq_zero_iff.mp (Nat.le_zero.mp le))
  · refine List.all_eq_true.mpr fun c mem => ?_
    obtain there | wide := mem_nameText mem
    · exact List.all_eq_true.mp h.plain c there
    · simp [isSpace, other wide ' ' (by decide), other wide '\t' (by decide),
        other wide '"' (by decide)]
  · intro mem
    obtain there | wide := mem_nameText mem
    · exact h.noEquals there
    · exact other wide '=' (by decide) rfl
  · intro mem
    obtain there | wide := mem_nameText mem
    · exact h.noSemicolon there
    · exact other wide ';' (by decide) rfl

/-! ## The whole field -/

/-- **A name that is read back as it is**: it is not empty, is in ASCII, and has no blank, no quote,
no separator and no line end in it. -/
structure Readable (name : String) : Prop where
  ne_empty : name ≠ ""
  chars : ∀ c ∈ name.toList, c.toNat < 128 ∧ c ∉ [' ', '\t', '"', '=', ';', '\n', '\r']

instance : DecidablePred Readable := fun name =>
  decidable_of_iff (name ≠ "" ∧ name.toList.all fun c =>
      c.toNat < 128 ∧ c ∉ [' ', '\t', '"', '=', ';', '\n', '\r'])
    ⟨fun h => ⟨h.1, by simpa using h.2⟩, fun h => ⟨h.1, by simpa using h.chars⟩⟩

theorem Readable.isName {name : String} (h : Readable name) : IsName name.toList := by
  constructor
  · exact fun empty => h.ne_empty (String.toList_injective empty)
  · refine List.all_eq_true.mpr fun c mem => ?_
    have other := (h.chars c mem).2
    simp only [List.mem_cons, not_or] at other
    simp [isSpace, other]
  · exact fun mem => absurd (h.chars _ mem).2 (by decide)
  · exact fun mem => absurd (h.chars _ mem).2 (by decide)

/-- **What a client sends back** of a cookie that has been set: all that precedes the attributes. -/
def sentBack (text : String) : String := String.ofList (text.toList.takeWhile (· ≠ ';'))

/-- A field that sets a cookie starts with the pair, and its name has no line end. -/
theorem text_spec {cookie : SetCookie} {text : String} (h : cookie.text = .ok text) :
    (∃ attributes, text.toList = (nameText cookie.name).toList ++
      '=' :: ((valueText cookie.value).toList ++ ';' :: attributes)) ∧
    ∀ c ∈ cookie.name.toList, c ≠ '\n' ∧ c ≠ '\r' := by
  unfold SetCookie.text at h
  simp only [List.cons_append, List.nil_append] at h
  split at h
  · exact nomatch h
  next unbroken =>
  obtain rfl := Except.ok.inj h
  constructor
  · rw [String.intercalate_cons_cons]
    simp only [String.toList_append, List.append_assoc]
    exact ⟨_, rfl⟩
  · intro c mem
    have whole := unbroken
    simp only [Bool.not_eq_true, List.any_eq_false] at whole
    simpa [not_or] using whole c mem

/-- A cookie that is not written has a name that breaks the line. -/
theorem text_eq_error {cookie : SetCookie} {f : Failure} (h : cookie.text = .error f) :
    f = .badCookie ∧ ¬ Readable cookie.name := by
  unfold SetCookie.text at h
  simp only at h
  split at h
  · next broken =>
    refine ⟨(Except.error.inj h).symm, fun readable => ?_⟩
    obtain ⟨c, mem, breaks⟩ := List.any_eq_true.mp broken
    have other := (readable.chars c mem).2
    simp only [Bool.or_eq_true, decide_eq_true_eq] at breaks
    obtain rfl | rfl := breaks
    · exact absurd other (by decide)
    · exact absurd other (by decide)
  · exact nomatch h

/-- What is read of a cookie that is sent back, if the reader lets its name pass. -/
theorem get_sentBack {cookie : SetCookie} {text : String} (written : cookie.text = .ok text)
    (ne : cookie.value ≠ "") (isName : IsName cookie.name.toList) :
    Cookies.get (sentBack text) cookie.name =
      if (nameText cookie.name).toList = cookie.name.toList then cookie.value else "" := by
  obtain ⟨⟨attributes, chars⟩, -⟩ := text_spec written
  have value := valueText_spec ne
  have isName' := isName_nameText isName
  have apart : ';' ∉ (nameText cookie.name).toList ++ '=' :: (valueText cookie.value).toList := by
    intro mem
    rcases List.mem_append.mp mem with mem | mem
    · exact isName'.noSemicolon mem
    · rcases List.mem_cons.mp mem with same | mem
      · exact absurd same (by decide)
      · exact value.noSemicolon mem
  have pair : (sentBack text).toList =
      (nameText cookie.name).toList ++ '=' :: (valueText cookie.value).toList := by
    rw [sentBack, String.toList_ofList, chars, ← List.cons_append, ← List.append_assoc]
    exact takeWhile_append apart attributes
  rw [get_of_pair (pair ▸ pair_of_valueText isName' value), String.ofList_toList]

/-- A name that the reader lets pass is written as it is only if it is in ASCII. -/
theorem readable_of_nameText {name : String} (isName : IsName name.toList)
    (unchanged : (nameText name).toList = name.toList)
    (unbroken : ∀ c ∈ name.toList, c ≠ '\n' ∧ c ≠ '\r') : Readable name := by
  have ascii : ∀ c ∈ name.toList, c.toNat < 128 := by
    refine (length_utf8 name.toList).2 ?_
    have length := congrArg List.length unchanged
    rwa [toList_nameText, List.length_map] at length
  refine ⟨fun empty => isName.ne_nil (empty ▸ rfl), fun c mem => ⟨ascii c mem, ?_⟩⟩
  have plain := List.all_eq_true.mp isName.plain c mem
  have equals : c ≠ '=' := fun same => isName.noEquals (same ▸ mem)
  have semicolon : c ≠ ';' := fun same => isName.noSemicolon (same ▸ mem)
  have line := unbroken c mem
  simp only [isSpace, Bool.and_eq_true, Bool.not_eq_true', Bool.or_eq_false_iff,
    decide_eq_false_iff_not, bne_iff_ne] at plain
  simp [plain, equals, semicolon, line]

/-- **A cookie is read back exactly if its name is readable**, whatever its value is. -/
theorem get_sentBack_iff {cookie : SetCookie} {text : String} (written : cookie.text = .ok text)
    (ne : cookie.value ≠ "") :
    Cookies.get (sentBack text) cookie.name = cookie.value ↔ Readable cookie.name := by
  constructor
  · intro same
    have isName : IsName cookie.name.toList := by
      by_contra unreadable
      exact ne (same.symm.trans (get_of_not_isName unreadable _))
    rw [get_sentBack written ne isName] at same
    refine readable_of_nameText isName ?_ (text_spec written).2
    by_contra changed
    rw [if_neg changed] at same
    exact ne same.symm
  · intro readable
    have unchanged := nameText_of_ascii fun c mem => (readable.chars c mem).1
    rw [get_sentBack written ne readable.isName, unchanged, if_pos rfl]

example : Readable "__Host-token" ∧ ¬ Readable "refresh token" := by decide +kernel

end SetCookie
end LoginGate.Http
