import LoginGate.Json.Encoded
import LoginGate.Json.Writer
import LoginGate.Proofs.Numerals
import LoginGate.Proofs.Utf8

/-!
# Proofs/Json — flat objects are read back

The header and the claims of a token are objects whose members are texts and integers. Written
without blanks, such an object is read back as it was, whatever its texts hold: every character that
is not plain ASCII is written as an escape that the reader takes for that character alone.
-/

namespace LoginGate.Json

open LoginGate.Bytes

/-! ## Strings -/

/-- Four digits in base sixteen are read back. -/
theorem unit?_hexNumeral {n : Nat} (h : n < 0x10000) (rest : List Symbol) :
    unit? ((hexNumeral 4 n).map some ++ rest) = some (n, rest) := by
  have digit (k : Nat) : hexValue? (hexDigit (k % 16)) = some (k % 16) :=
    hexValue?_hexDigit (Nat.mod_lt k (by decide))
  have sum : ((n / 16 / 16 / 16 % 16 * 16 + n / 16 / 16 % 16) * 16 + n / 16 % 16) * 16 + n % 16 =
      n := by omega
  simp [hexNumeral, unit?, digit, sum]

/-- The low half of a pair is found behind the high one. -/
theorem lowHalf?_unitEscape {n : Nat} (low : 0xdc00 ≤ n) (high : n ≤ 0xdfff)
    (rest : List Symbol) : lowHalf? ((unitEscape n).map some ++ rest) = some (n, rest) := by
  have unit := unit?_hexNumeral (n := n) (by omega) rest
  simp [unitEscape, lowHalf?, unit, low, high]

/-- The characters of one escape: those outside printable ASCII. -/
theorem escape?_unitEscape {c : Char} (h : c.toNat < 0x10000) (rest : List Symbol) :
    escape? (some 'u' :: (hexNumeral 4 c.toNat).map some ++ rest) = some (some c, rest) := by
  have valid : c.toNat < 0xd800 ∨ 0xdfff < c.toNat ∧ c.toNat < 0x110000 := c.valid
  have unit := unit?_hexNumeral h rest
  simp only [escape?, List.cons_append, unit]
  rw [if_neg (by omega), if_neg (by omega), Char.ofNat_toNat]

/-- The characters of two escapes: those beyond sixteen bits. -/
theorem escape?_pair {c : Char} {high low : Nat} (highHalf : 0xd800 ≤ high ∧ high ≤ 0xdbff)
    (lowHalf : 0xdc00 ≤ low ∧ low ≤ 0xdfff)
    (sum : 0x10000 + (high - 0xd800) * 1024 + (low - 0xdc00) = c.toNat) (rest : List Symbol) :
    escape? (some 'u' :: (hexNumeral 4 high).map some ++ ((unitEscape low).map some ++ rest)) =
      some (some c, rest) := by
  have first := unit?_hexNumeral (n := high) (by omega) ((unitEscape low).map some ++ rest)
  have second := lowHalf?_unitEscape lowHalf.1 lowHalf.2 rest
  simp only [escape?, List.cons_append, first, second, sum, Char.ofNat_toNat]
  rw [if_pos highHalf]

/-- A string goes on after an escape. -/
theorem string?_of_escape {c : Char} {s rest : List Symbol} (h : escape? s = some (some c, rest))
    (fuel : Nat) : string? (fuel + 1) (some '\\' :: s) =
      (string? fuel rest).bind fun p => some (some c :: p.1, p.2) := by
  simp only [string?, h]
  rfl

/-- A string goes on after a character that stands for itself. -/
theorem string?_of_plain {c : Char} (quote : c ≠ '"') (backslash : c ≠ '\\')
    (visible : 0x20 ≤ c.toNat) (rest : List Symbol) (fuel : Nat) :
    string? (fuel + 1) (some c :: rest) =
      (string? fuel rest).bind fun p => some (some c :: p.1, p.2) := by
  have control : ¬ (some c).any (fun c => decide (c.toNat < 0x20)) = true := by
    simpa using visible
  rw [string?.eq_def]
  simp only
  split
  · next same => exact nomatch same
  · next same => exact absurd (Option.some.inj (List.cons.inj same).1) quote
  · next same => exact absurd (Option.some.inj (List.cons.inj same).1) backslash
  · next same =>
    obtain ⟨rfl, rfl⟩ := List.cons.inj same
    rw [if_neg control]
    rfl

/-- **The reader takes what is written for a character** from the front of a string. -/
theorem string?_escapeChar (c : Char) (fuel : Nat) (rest : List Symbol) :
    string? (fuel + 1) ((escapeChar c).map some ++ rest) =
      (string? fuel rest).bind fun p => some (some c :: p.1, p.2) := by
  unfold escapeChar
  split
  · exact string?_of_escape rfl fuel
  · exact string?_of_escape rfl fuel
  · exact string?_of_escape rfl fuel
  · exact string?_of_escape rfl fuel
  · exact string?_of_escape rfl fuel
  · exact string?_of_escape rfl fuel
  · exact string?_of_escape rfl fuel
  next quote backslash _ _ _ _ _ =>
  by_cases printable : ' ' ≤ c ∧ c ≤ '~'
  · rw [if_pos printable]
    exact string?_of_plain quote backslash (Char.le_def.mp printable.1) rest fuel
  rw [if_neg printable]
  by_cases short : c.toNat < 0x10000
  · rw [if_pos short]
    exact string?_of_escape (escape?_unitEscape short rest) fuel
  · have valid : c.toNat < 0xd800 ∨ 0xdfff < c.toNat ∧ c.toNat < 0x110000 := c.valid
    rw [if_neg short]
    simp only [List.map_append, List.append_assoc]
    exact string?_of_escape (escape?_pair (by omega) (by omega) (by omega) rest) fuel

/-- A string is read up to its closing quote. -/
theorem string?_flatMap_escapeChar (s : List Char) {fuel : Nat} (enough : s.length < fuel)
    (rest : List Symbol) :
    string? fuel ((s.flatMap escapeChar).map some ++ some '"' :: rest) =
      some (s.map some, rest) := by
  induction s generalizing fuel with
  | nil =>
    obtain ⟨fuel, rfl⟩ := Nat.exists_eq_succ_of_ne_zero (Nat.ne_of_gt enough)
    rfl
  | cons c s ih =>
    obtain ⟨fuel, rfl⟩ := Nat.exists_eq_succ_of_ne_zero (Nat.ne_of_gt (Nat.zero_lt_of_lt enough))
    rw [List.flatMap_cons, List.map_append, List.append_assoc, string?_escapeChar,
      ih (Nat.lt_of_succ_lt_succ enough)]
    rfl

/-- Nothing is written shorter than it is. -/
theorem length_le_flatMap_escapeChar (s : List Char) :
    s.length ≤ (s.flatMap escapeChar).length := by
  have pos (c : Char) : 1 ≤ (escapeChar c).length := by
    unfold escapeChar
    split
    all_goals try decide
    split
    · exact Nat.le_refl 1
    · split <;> simp [unitEscape]
  induction s with
  | nil => exact Nat.le_refl _
  | cons c s ih =>
    have first := pos c
    rw [List.flatMap_cons, List.length_append, List.length_cons]
    omega

/-- **A string is read back** behind its opening quote. -/
theorem string_flatMap_escapeChar (s : List Char) (rest : List Symbol) :
    string ((s.flatMap escapeChar).map some ++ some '"' :: rest) = .ok (s.map some, rest) := by
  have shorter := length_le_flatMap_escapeChar s
  rw [string, string?_flatMap_escapeChar s _ rest]
  · rfl
  · simp only [List.length_append, List.length_map, List.length_cons]
    omega

theorem characters?_map_some (s : List Char) : characters? (s.map some) = some s := by
  induction s with
  | nil => rfl
  | cons c s ih => simp [characters?, ih]

theorem textOfSymbols_map_some (s : String) : textOfSymbols (s.toList.map some) = .text s := by
  rw [textOfSymbols, characters?_map_some]
  simp only [String.ofList_toList]

theorem nameOfSymbols_map_some (s : String) : nameOfSymbols (s.toList.map some) = s := by
  simp [nameOfSymbols, Function.comp_def]

/-! ## Integers -/

/-- What follows a value inside an object. -/
inductive Stops : List Symbol → Prop where
  | comma (rest : List Symbol) : Stops (some ',' :: rest)
  | brace (rest : List Symbol) : Stops (some '\x7d' :: rest)

theorem digits_map_some {ds : List Char} (all : ∀ c ∈ ds, c.isDigit = true) {rest : List Symbol}
    (stops : Stops rest) : digits (ds.map some ++ rest) = (ds, rest) := by
  induction ds with
  | nil => cases stops <;> rfl
  | cons c ds ih =>
    have digit := all c List.mem_cons_self
    have others := ih fun d hd => all d (List.mem_cons_of_mem _ hd)
    simp [digits, digit, others]

/-- A number above zero starts with another digit than zero. -/
theorem decimal_eq_cons {n : Nat} (pos : 0 < n) :
    ∃ c t, Number.decimal n = c :: t ∧ c ≠ '0' := by
  induction n using Nat.strongRecOn with
  | ind n ih =>
    by_cases small : n < 10
    · refine ⟨n.digitChar, [], Nat.toDigits_of_lt_base small, fun zero => ?_⟩
      exact absurd (Nat.digitChar_eq_zero.mp zero) (Nat.ne_of_gt pos)
    · obtain ⟨c, t, first, other⟩ := ih (n / 10) (by omega) (by omega)
      refine ⟨c, t ++ [(n % 10).digitChar], ?_, other⟩
      rw [Number.decimal, Nat.toDigits_of_base_le (by decide) (by omega)]
      unfold Number.decimal at first
      rw [first, List.cons_append]

theorem numeral_decimal (n : Nat) : numeral (Number.decimal n) = n := by
  have same := Nat.ofDigitChars_ten_toDigits (n := n)
  rw [Nat.ofDigitChars_eq_foldl] at same
  exact same

/-- Where a number ends, no fraction and no exponent follow. -/
theorem fraction_of_stops {rest : List Symbol} (stops : Stops rest) :
    fraction rest = (none, rest) := by
  cases stops <;> rfl

theorem exponent_of_stops {rest : List Symbol} (stops : Stops rest) :
    exponent rest = (none, rest) := by
  cases stops <;> rfl

/-- A number goes as far as its digits if nothing else of it follows. -/
theorem number_of_digits {negative : Bool} {c : Char} {t : List Char} {s rest : List Symbol}
    (other : c ≠ '0') (read : digits (some c :: s) = (c :: t, rest)) (stops : Stops rest)
    (short : (c :: t).length ≤ Number.maxDecimalDigits) :
    number negative (some c :: s) =
      .ok (.int (if negative then -(numeral (c :: t) : Int) else numeral (c :: t)), rest) := by
  unfold number
  split
  · next same => exact absurd (Option.some.inj (List.cons.inj same).1) other
  · simp only [read, fraction_of_stops stops, exponent_of_stops stops]
    rw [if_neg (Nat.not_lt.mpr short)]

/-- A decimal numeral is all there is of a number, up to where it ends. -/
theorem number_decimal (negative : Bool) {n : Nat}
    (short : (Number.decimal n).length ≤ Number.maxDecimalDigits) {rest : List Symbol}
    (stops : Stops rest) : number negative ((Number.decimal n).map some ++ rest) =
      .ok (.int (if negative then -(n : Int) else n), rest) := by
  obtain rfl | pos := Nat.eq_zero_or_pos n
  · cases stops <;> rfl
  · have read := digits_map_some (fun c => Number.isDigit_of_mem_decimal (n := n)) stops
    have value := numeral_decimal n
    obtain ⟨c, t, first, other⟩ := decimal_eq_cons pos
    rw [first] at read value short ⊢
    rw [List.map_cons, List.cons_append] at read ⊢
    rw [number_of_digits other read stops short, value]

/-! ## Members -/

/-- **What the members of a token are**: texts, and integers that are not too long to be read. -/
inductive Scalar : Json → Prop where
  | text (s : String) : Scalar (.text s)
  | int (n : Int) (short : (Number.decimal n.natAbs).length ≤ Number.maxDecimalDigits) :
    Scalar (.int n)

/-- A digit starts nothing but a number. -/
theorem value_of_digit {c : Char} (digit : c.isDigit = true) (fuel depth : Nat) (s : List Symbol) :
    value (fuel + 1) depth (some c :: s) = number false (some c :: s) := by
  have other {d : Char} (h : d.isDigit = false) : c ≠ d := fun same =>
    Bool.false_ne_true (h.symm.trans (same ▸ digit))
  rw [value.eq_def]
  simp [other (d := '"') rfl, other (d := '\x7b') rfl, other (d := '[') rfl, other (d := 'n') rfl,
    other (d := 't') rfl, other (d := 'f') rfl, other (d := 'N') rfl, other (d := 'I') rfl,
    other (d := '-') rfl]

/-- A digit behind a minus sign starts a number below zero. -/
theorem value_of_minus {c : Char} (digit : c.isDigit = true) (fuel depth : Nat) (s : List Symbol) :
    value (fuel + 1) depth (some '-' :: some c :: s) = number true (some c :: s) := by
  have other : c ≠ 'I' := by
    rintro rfl
    exact absurd digit (by decide)
  rw [value.eq_def]
  simp [other]

/-- An integer is read back. -/
theorem value_writeInt {n : Int}
    (short : (Number.decimal n.natAbs).length ≤ Number.maxDecimalDigits) (fuel depth : Nat)
    {rest : List Symbol} (stops : Stops rest) :
    value (fuel + 1) depth ((writeInt n).map some ++ rest) = .ok (.int n, rest) := by
  have starts (n : Nat) : ∃ c t, Number.decimal n = c :: t ∧ c.isDigit = true := by
    obtain ⟨c, t, first⟩ := List.exists_cons_of_ne_nil (Number.decimal_ne_nil n)
    exact ⟨c, t, first, Number.isDigit_of_mem_decimal (n := n) (first ▸ List.mem_cons_self)⟩
  cases n with
  | ofNat n =>
    have read := number_decimal (n := n) false short stops
    obtain ⟨c, t, first, digit⟩ := starts n
    unfold writeInt
    simp only
    rw [first, List.map_cons, List.cons_append] at read ⊢
    rw [value_of_digit digit, read]
    rfl
  | negSucc n =>
    have read := number_decimal (n := n + 1) true short stops
    obtain ⟨c, t, first, digit⟩ := starts (n + 1)
    unfold writeInt
    simp only
    rw [first, List.map_cons, List.cons_append] at read
    rw [first, List.map_cons, List.map_cons, List.cons_append, List.cons_append,
      value_of_minus digit, read]
    rfl

/-- **A member's value is read back.** -/
theorem value_write {doc : Json} (h : Scalar doc) (fuel depth : Nat) {rest : List Symbol}
    (stops : Stops rest) :
    value (fuel + 1) depth ((write .compact doc).map some ++ rest) = .ok (doc, rest) := by
  cases h with
  | text s =>
    have read := string_flatMap_escapeChar s.toList rest
    have written : (write .compact (.text s)).map some ++ rest =
        some '"' :: ((s.toList.flatMap escapeChar).map some ++ some '"' :: rest) := by
      simp [write, writeText]
    rw [written, value.eq_def]
    simp only [read]
    rw [← textOfSymbols_map_some s]
    rfl
  | int n short => exact value_writeInt short fuel depth stops

/-- What is written starts with no blank. -/
theorem skipBlanks_write {doc : Json} (h : Scalar doc) (rest : List Symbol) :
    skipBlanks ((write .compact doc).map some ++ rest) = (write .compact doc).map some ++ rest := by
  have visible {c : Char} (digit : c.isDigit = true) (s : List Symbol) :
      skipBlanks (some c :: s) = some c :: s := by
    have other {d : Char} (h : d.isDigit = false) : c ≠ d := fun same =>
      Bool.false_ne_true (h.symm.trans (same ▸ digit))
    simp [skipBlanks, other (d := ' ') rfl, other (d := '\t') rfl, other (d := '\n') rfl,
      other (d := '\r') rfl]
  cases h with
  | text s => simp [write, writeText, skipBlanks]
  | int n short =>
    cases n with
    | ofNat n =>
      obtain ⟨c, t, first⟩ := List.exists_cons_of_ne_nil (Number.decimal_ne_nil n)
      have digit : c.isDigit = true :=
        Number.isDigit_of_mem_decimal (n := n) (first ▸ List.mem_cons_self)
      simp only [write, writeInt, first, List.map_cons, List.cons_append]
      exact visible digit _
    | negSucc n => simp [write, writeInt, skipBlanks]

/-- A mark is no blank. -/
theorem skipBlanks_mark {c : Char} (h : c ∈ ['"', ':', ',', '\x7b', '\x7d']) (s : List Symbol) :
    skipBlanks (some c :: s) = some c :: s := by
  simp only [List.mem_cons, List.not_mem_nil, or_false] at h
  obtain rfl | rfl | rfl | rfl | rfl := h <;> rfl

/-- The text of some members, one after another. -/
def membersText (ms : List (String × Json)) : List Char :=
  joined Layout.compact.item (writeMembers .compact ms)

/-- A member stands before what is written for the others. -/
theorem membersText_cons (name : String) (doc : Json) (ms : List (String × Json)) :
    membersText ((name, doc) :: ms) = '"' :: (name.toList.flatMap escapeChar ++ '"' :: ':' ::
      (write .compact doc ++ if ms = [] then [] else ',' :: membersText ms)) := by
  cases ms with
  | nil => simp [membersText, writeMembers, joined, writeText, Layout.compact]
  | cons m ms => simp [membersText, writeMembers, joined, writeText, Layout.compact]

theorem skipBlanks_membersText (m : String × Json) (ms : List (String × Json))
    (rest : List Symbol) : skipBlanks ((membersText (m :: ms)).map some ++ rest) =
      (membersText (m :: ms)).map some ++ rest := by
  rw [membersText_cons m.1 m.2 ms, List.map_cons, List.cons_append]
  exact skipBlanks_mark (by decide) _

/-- **Members are read back** up to the closing brace. -/
theorem members_write {ms : List (String × Json)} (ne : ms ≠ [])
    (scalar : ∀ m ∈ ms, Scalar m.2) {fuel : Nat} (enough : ms.length < fuel) (depth : Nat)
    (rest : List Symbol) :
    members fuel depth ((membersText ms).map some ++ some '\x7d' :: rest) = .ok (ms, rest) := by
  induction ms generalizing fuel with
  | nil => exact absurd rfl ne
  | cons m ms ih =>
    obtain ⟨name, doc⟩ := m
    obtain ⟨fuel, rfl⟩ : ∃ k, fuel = k + 2 := ⟨fuel - 2, by simp at enough; omega⟩
    have first : Scalar doc := scalar (name, doc) List.mem_cons_self
    let after : List Symbol :=
      (if ms = [] then [] else ',' :: membersText ms).map some ++ some '\x7d' :: rest
    have stops : Stops after := by
      cases ms with
      | nil => exact .brace rest
      | cons => exact .comma _
    have nameRead := string_flatMap_escapeChar name.toList
      (some ':' :: ((write .compact doc).map some ++ after))
    have docRead := value_write first fuel depth stops
    have written : (membersText ((name, doc) :: ms)).map some ++ some '\x7d' :: rest =
        some '"' :: ((name.toList.flatMap escapeChar).map some ++ some '"' ::
          (some ':' :: ((write .compact doc).map some ++ after))) := by
      rw [membersText_cons]
      simp [after]
    rw [written, members.eq_def]
    simp only [nameRead, bind, Except.bind]
    rw [skipBlanks_mark (by decide)]
    simp only [skipBlanks_write first after, docRead, nameOfSymbols_map_some]
    cases ms with
    | nil => rfl
    | cons m ms =>
      have enough : (m :: ms).length < fuel + 1 := Nat.lt_of_succ_lt_succ enough
      have others := ih (List.cons_ne_nil m ms)
        (fun m hm => scalar m (List.mem_cons_of_mem _ hm)) enough
      have continued : after =
          some ',' :: ((membersText (m :: ms)).map some ++ some '\x7d' :: rest) := rfl
      rw [continued, skipBlanks_mark (by decide)]
      simp only [skipBlanks_membersText, others]
      rfl

/-- What is written for members is not shorter than their number. -/
theorem length_le_membersText (ms : List (String × Json)) :
    ms.length ≤ (membersText ms).length := by
  induction ms with
  | nil => exact Nat.zero_le _
  | cons m ms ih =>
    rw [membersText_cons m.1 m.2 ms]
    split
    · next none => simp [none]
    · simp only [List.length_cons, List.length_append]
      omega

/-- An object is read back, whatever follows it. -/
theorem value_write_object {ms : List (String × Json)} (ne : ms ≠ [])
    (scalar : ∀ m ∈ ms, Scalar m.2) {fuel : Nat} (enough : ms.length < fuel) (depth : Nat)
    (rest : List Symbol) :
    value (fuel + 1) (depth + 1) ((write .compact (.object ms)).map some ++ rest) =
      .ok (.object ms, rest) := by
  have read := members_write ne scalar enough depth rest
  have written : (write .compact (.object ms)).map some ++ rest =
      some '\x7b' :: ((membersText ms).map some ++ some '\x7d' :: rest) := by
    simp [write, membersText]
  obtain ⟨m, others, rfl⟩ := List.exists_cons_of_ne_nil ne
  have starts :
      ∃ t, (membersText (m :: others)).map some ++ some '\x7d' :: rest = some '"' :: t := by
    rw [membersText_cons m.1 m.2 others]
    exact ⟨_, rfl⟩
  obtain ⟨t, starts⟩ := starts
  rw [written, value.eq_def]
  simp only [skipBlanks_membersText]
  rw [starts] at read ⊢
  change (members fuel depth (some '"' :: t) >>= fun p => pure (object p.1, p.2)) = _
  rw [read]
  rfl

/-- **An object of texts and short integers is read back.** -/
theorem ofSymbols_write {ms : List (String × Json)} (ne : ms ≠ []) (scalar : ∀ m ∈ ms, Scalar m.2) :
    ofSymbols ((write .compact (.object ms)).map some) = .ok (.object ms) := by
  have fits := length_le_membersText ms
  have enough : ms.length < ((write .compact (.object ms)).map some).length := by
    simp only [write, List.length_map, List.length_append, List.length_cons]
    unfold membersText at fits
    omega
  have read := value_write_object ne scalar enough 959 []
  rw [List.append_nil] at read
  have unblank : skipBlanks ((write .compact (.object ms)).map some) =
      (write .compact (.object ms)).map some := by
    simp only [write, List.cons_append, List.map_cons]
    exact skipBlanks_mark (by decide) _
  rw [ofSymbols, unblank, maxDepth, read]
  rfl

/-- The bytes of a text that begins like an object with members show that they are UTF-8. -/
theorem decode?_utf8 (rest : List Char) :
    decode? (utf8 ('\x7b' :: '"' :: rest)) = some (('\x7b' :: '"' :: rest).map some) := by
  have detected :
      detect (utf8 ('\x7b' :: '"' :: rest)) = (.utf8, utf8 ('\x7b' :: '"' :: rest)) := by
    change detect (0x7b :: 0x22 :: utf8 rest) = (.utf8, 0x7b :: 0x22 :: utf8 rest)
    generalize utf8 rest = tail
    rcases tail with _ | ⟨c, _ | ⟨d, tail⟩⟩ <;> rfl
  rw [decode?, detected]
  exact ofUtf8?_utf8 _

/-- **An object of texts and short integers is read back from its bytes.** -/
theorem ofBytes_write {ms : List (String × Json)} (ne : ms ≠ []) (scalar : ∀ m ∈ ms, Scalar m.2) :
    ofBytes (utf8 (write .compact (.object ms))) = .ok (.object ms) := by
  have read := ofSymbols_write ne scalar
  have starts : ∃ t, write .compact (.object ms) = '\x7b' :: '"' :: t := by
    obtain ⟨m, others, rfl⟩ := List.exists_cons_of_ne_nil ne
    have text := membersText_cons m.1 m.2 others
    unfold membersText at text
    simp only [write, text]
    exact ⟨_, rfl⟩
  obtain ⟨t, starts⟩ := starts
  rw [starts] at read ⊢
  rw [ofBytes, decode?_utf8]
  exact read

end LoginGate.Json
