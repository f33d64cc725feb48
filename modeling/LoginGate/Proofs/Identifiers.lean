import LoginGate.Form
import LoginGate.Proofs.Token
import LoginGate.Service.Basic

/-!
# Proofs/Identifiers — two readers, and one text for each identifier

The strict reader takes an identifier in four layouts, whose digits may be of either letter case.
The lenient reader takes the marks out of all of them and is left with the same digits, in which
there is nothing but digits: no sign, no blank, no underscore and no mark of a base. So it reads
the same identifier. What it takes besides has a canonical text like every identifier, and that
text both readers take.
-/

namespace LoginGate

/-! ## Digits of either letter case -/

namespace Bytes

/-- The digits in base sixteen. -/
def hexDigits : List Char := "0123456789abcdefABCDEF".toList

theorem mem_hexDigits {c : Char} {d : Nat} (h : hexValue? c = some d) : c ∈ hexDigits := by
  have ascii : ∀ n < 0x80, (hexValue? (Char.ofNat n)).isSome → Char.ofNat n ∈ hexDigits := by decide
  have bound : c.toNat < 0x80 := by
    have below {high : Char} (le : c ≤ high) (low : high.toNat < 0x80) : c.toNat < 0x80 :=
      Nat.lt_of_le_of_lt (UInt32.le_iff_toNat_le.mp le) low
    unfold hexValue? at h
    split at h
    · next range => exact below range.2 (by decide)
    split at h
    · next range => exact below range.2 (by decide)
    split at h
    · next range => exact below range.2 (by decide)
    · exact nomatch h
  have mem := ascii c.toNat bound
  rw [Char.ofNat_toNat] at mem
  exact mem (h ▸ rfl)

/-- What is read as digits has nothing else in it. -/
theorem forall_mem_hexDigits {s : List Char} {ds : List Nat} (read : s.mapM hexValue? = some ds) :
    ∀ c ∈ s, c ∈ hexDigits := by
  induction s generalizing ds with
  | nil => nofun
  | cons c rest ih =>
    obtain ⟨d, value, ds', later, -⟩ : ∃ d, hexValue? c = some d ∧
        ∃ ds', rest.mapM hexValue? = some ds' ∧ d :: ds' = ds := by
      simpa [Option.bind_eq_some_iff] using read
    exact List.forall_mem_cons.mpr ⟨mem_hexDigits value, ih later⟩

end Bytes

namespace Number

open Bytes

/-- A digit in base sixteen is the same digit in a numeral, and none of its other characters. -/
theorem digitIn?_of_mem_hexDigits : ∀ c ∈ hexDigits, digitIn? 16 c = hexValue? c ∧
    isPadding c = false ∧ plainDigit c = c ∧ c ∉ "+-_xX".toList :=
  List.forall_mem_iff_getElem.mpr (by decide)

theorem mapM_congr {f g : Char → Option Nat} {s : List Char} (h : ∀ c ∈ s, f c = g c) :
    s.mapM f = s.mapM g := by
  induction s with
  | nil => rfl
  | cons c rest ih =>
    obtain ⟨first, later⟩ := List.forall_mem_cons.mp h
    rw [List.mapM_cons, List.mapM_cons, first, ih later]

/-- **The lenient reader takes digits of either letter case.** -/
theorem integer?_of_hexValues {s : List Char} {ds : List Nat} (read : s.mapM hexValue? = some ds)
    (ne : s ≠ []) : integer? 16 s = some (Int.ofNat (ofDigits 16 ds)) := by
  have digits := forall_mem_hexDigits read
  have facts (c) (hc : c ∈ s) := digitIn?_of_mem_hexDigits c (digits c hc)
  have signs (c) (hc : c ∈ s) : c ≠ '+' ∧ c ≠ '-' ∧ c ≠ '_' ∧ c ≠ 'x' ∧ c ≠ 'X' := by
    simpa using (facts c hc).2.2.2
  have run : s.mapM (digitIn? 16) = some ds :=
    (mapM_congr fun c hc => (facts c hc).1).trans read
  rw [integer?_of_bare (fun c hc => (facts c hc).2.1) (fun c hc => (facts c hc).2.2.1)
    (fun c hc => ⟨(signs c hc).1, (signs c hc).2.1⟩),
    magnitude?_of_unmarked fun c hc => (signs c hc).2.2.2,
    digitRun?_of_mapM run (fun mem => (signs _ mem).2.2.1 rfl) ne]
  rfl

end Number

/-! ## The layouts of the strict reader -/

namespace Uuid

open Bytes

variable {s ds : List Char} {u : Uuid}

theorem ofNat?_eq_some {n : Nat} (h : ofNat? n = some u) : n = u.value := by
  by_cases fits : n < 2 ^ 128
  · exact congrArg value (Option.some.inj ((dif_pos fits).symm.trans h))
  · cases (dif_neg fits).symm.trans h

theorem ofDigits?_eq_some (h : ofDigits? ds = some u) :
    ds.length = 32 ∧ ∃ values, ds.mapM hexValue? = some values ∧
      Number.ofDigits 16 values = u.value := by
  unfold ofDigits? at h
  split at h
  next length =>
    split at h
    · next values read => exact ⟨length, values, read, ofNat?_eq_some h⟩
    · cases h
  · cases h

/-- Five groups are digits with hyphens between. -/
theorem ungrouped?_eq_some (h : ungrouped? s = some ds) : s.filter (· != '-') = ds := by
  have joined : ['-'].intercalate (s.splitOn '-') = s := List.intercalate_splitOn '-'
  have clean {part : List Char} (mem : part ∈ s.splitOn '-') : part.filter (· != '-') = part :=
    List.filter_eq_self.mpr fun c hc => bne_iff_ne.mpr fun same =>
      Text.notMem_of_mem_splitOn mem (same ▸ hc)
  rw [ungrouped?, Text.splitAll_eq_splitOn] at h
  split at h
  · next a b c d e parts =>
    split at h
    · obtain rfl := Option.some.inj h
      rw [parts] at joined clean
      simp only [List.mem_cons, List.not_mem_nil, or_false] at clean
      rw [← joined]
      simp [List.intercalate_cons_cons, clean (.inl rfl), clean (.inr (.inl rfl)),
        clean (.inr (.inr (.inl rfl))), clean (.inr (.inr (.inr (.inl rfl)))),
        clean (.inr (.inr (.inr (.inr rfl))))]
    · exact nomatch h
  · exact nomatch h

/-- **Digits, perhaps with hyphens between.** -/
def IsPlain (s : List Char) : Prop := ∀ c ∈ s, c = '-' ∨ c ∈ hexDigits

/-- **A text in one of the layouts**: by itself, in braces, or behind `urn:uuid:`. -/
inductive Layout (body : List Char) : List Char → Prop
  | bare : Layout body body
  | braced : Layout body ('\x7b' :: body ++ ['\x7d'])
  | named : Layout body ("urn:uuid:".toList ++ body)

/-- What the strict reader takes is in one of the layouts. -/
theorem exists_layout (h : ofFormatted? s = some u) :
    ∃ body, Layout body s ∧ IsPlain body ∧ ofDigits? (body.filter (· != '-')) = some u := by
  have digitsOnly {ds : List Char} (h : ofDigits? ds = some u) : ∀ c ∈ ds, c ∈ hexDigits := by
    obtain ⟨-, values, read, -⟩ := ofDigits?_eq_some h
    exact forall_mem_hexDigits read
  have groups {body : List Char} (h : (ungrouped? body).bind ofDigits? = some u) :
      IsPlain body ∧ ofDigits? (body.filter (· != '-')) = some u := by
    obtain ⟨ds, cut, read⟩ := Option.bind_eq_some_iff.mp h
    obtain rfl := ungrouped?_eq_some cut
    refine ⟨fun c hc => ?_, read⟩
    by_cases hyphen : c = '-'
    · exact .inl hyphen
    · exact .inr (digitsOnly read c (List.mem_filter.mpr ⟨hc, by simpa using hyphen⟩))
  unfold ofFormatted? at h
  split at h
  · have digits := digitsOnly h
    have kept : s.filter (· != '-') = s :=
      List.filter_eq_self.mpr fun c hc => bne_iff_ne.mpr fun same =>
        absurd (digits c hc) (same ▸ by decide)
    exact ⟨s, .bare, fun c hc => .inr (digits c hc), kept.symm ▸ h⟩
  split at h
  · exact ⟨s, .bare, groups h⟩
  split at h
  · next braces =>
    obtain ⟨length, opening, closing⟩ := braces
    obtain ⟨rest, rfl⟩ := List.head?_eq_some_iff.mp opening
    have ne : rest ≠ [] := by
      rintro rfl
      exact absurd length (by decide)
    rw [List.getLast?_cons_of_ne_nil ne] at closing
    obtain ⟨body, rfl⟩ := List.getLast?_eq_some_iff.mp closing
    rw [List.drop_one, List.tail_cons, List.dropLast_concat] at h
    exact ⟨body, .braced, groups h⟩
  split at h
  · next name =>
    have split := List.take_append_drop 9 s
    rw [name.2] at split
    exact ⟨s.drop 9, split ▸ .named, groups h⟩
  · exact nomatch h

/-! ## The lenient reader on these layouts -/

/-- No mark other than a hyphen stands among the digits. -/
theorem IsPlain.notMem {body : List Char} (plain : IsPlain body) {c : Char}
    (mark : c ∈ "u\x7b\x7d".toList) : c ∉ body := by
  intro mem
  have none : ∀ c ∈ "u\x7b\x7d".toList, c ≠ '-' ∧ c ∉ hexDigits :=
    List.forall_mem_iff_getElem.mpr (by decide)
  exact (plain c mem).elim (none c mark).1 (none c mark).2

theorem IsPlain.unbraced {body : List Char} (plain : IsPlain body) :
    ∀ c ∈ body, (c == '\x7b' || c == '\x7d') = false := by
  intro c hc
  rw [Bool.or_eq_false_iff]
  exact ⟨beq_false_of_ne fun same => plain.notMem (by decide) (same ▸ hc),
    beq_false_of_ne fun same => plain.notMem (by decide) (same ▸ hc)⟩

/-- Braces around a text that has none are trimmed away. -/
theorem trimWhile_braced {p : Char → Bool} {first last : Char} {body : List Char}
    (opening : p first = true) (closing : p last = true) (inner : ∀ c ∈ body, p c = false) :
    Text.trimWhile p (first :: body ++ [last]) = body := by
  have kept {l : List Char} (inner : ∀ c ∈ l, p c = false) : l.dropWhile p = l := by
    cases l with
    | nil => rfl
    | cons c l =>
      exact List.dropWhile_cons_of_neg (Bool.eq_false_iff.mp (inner c List.mem_cons_self))
  rw [Text.trimWhile, List.cons_append, List.dropWhile_cons_of_pos opening, List.dropWhile_append,
    kept inner]
  cases body with
  | nil => simp [closing]
  | cons c body =>
    rw [if_neg (by simp), List.reverse_append, List.reverse_singleton, List.singleton_append,
      List.dropWhile_cons_of_pos closing, kept fun c hc => inner c (List.mem_reverse.mp hc),
      List.reverse_reverse]

/-- **Without its marks, a text in one of the layouts is its digits.** -/
theorem unmarked_of_layout {body : List Char} (layout : Layout body s) (plain : IsPlain body) :
    unmarked s = body.filter (· != '-') := by
  have noName : 'u' ∉ body := plain.notMem (by decide)
  have urn : "urn:".toList = 'u' :: "rn:".toList := by decide
  have uuid : "uuid:".toList = 'u' :: "uid:".toList := by decide
  simp only [unmarked]
  cases layout with
  | bare =>
    rw [urn, uuid, Text.removeAll_eq_self noName, Text.removeAll_eq_self noName,
      Text.trimWhile_eq_self (fun c hc => plain.unbraced c (List.mem_of_mem_head? hc))
        fun c hc => plain.unbraced c (List.mem_of_mem_getLast? hc)]
  | braced =>
    have noName : 'u' ∉ '\x7b' :: body ++ ['\x7d'] := by simpa using noName
    rw [urn, uuid, Text.removeAll_eq_self noName, Text.removeAll_eq_self noName,
      trimWhile_braced rfl rfl plain.unbraced]
  | named =>
    have first : Text.removeAll "urn:".toList ("urn:uuid:".toList ++ body) =
        "uuid:".toList ++ Text.removeAll "urn:".toList body := rfl
    have second : Text.removeAll "uuid:".toList ("uuid:".toList ++ body) =
        Text.removeAll "uuid:".toList body := rfl
    rw [first, urn, Text.removeAll_eq_self noName, second, uuid, Text.removeAll_eq_self noName,
      Text.trimWhile_eq_self (fun c hc => plain.unbraced c (List.mem_of_mem_head? hc))
        fun c hc => plain.unbraced c (List.mem_of_mem_getLast? hc)]

/-- What the lenient reader takes is the number that is left without the marks. -/
theorem ofLoose?_eq_some (h : ofLoose? s = some u) :
    Number.integer? 16 (unmarked s) = some (u.value : Int) := by
  simp only [ofLoose?] at h
  split at h
  · split at h
    · next number =>
      rw [number, ofNat?_eq_some h]
      rfl
    · cases h
  · cases h

/-- **What the strict reader takes, the lenient one takes as the same identifier.** -/
theorem ofLoose?_of_ofFormatted? (h : ofFormatted? s = some u) : ofLoose? s = some u := by
  obtain ⟨body, layout, plain, read⟩ := exists_layout h
  obtain ⟨length, values, digits, value⟩ := ofDigits?_eq_some read
  have ne : body.filter (· != '-') ≠ [] := by
    intro none
    exact absurd length (none ▸ by decide)
  rw [ofLoose?, unmarked_of_layout layout plain]
  simp only [length, if_true, Number.integer?_of_hexValues digits ne, value]
  exact dif_pos u.isLt

/-! ## Canonical texts -/

theorem mapM_hexValue?_map_hexDigit {values : List Nat} (small : ∀ d ∈ values, d < 16) :
    (values.map hexDigit).mapM hexValue? = some values := by
  induction values with
  | nil => rfl
  | cons d rest ih =>
    obtain ⟨first, later⟩ := List.forall_mem_cons.mp small
    rw [List.map_cons, List.mapM_cons, hexValue?_hexDigit first, ih later]
    rfl

/-- The digits of an identifier are those of its value. -/
theorem ofDigits?_digits (u : Uuid) : ofDigits? u.digits = some u := by
  obtain ⟨values, written, small, value⟩ := Number.exists_digits_of_hexNumeral 32 u.value
  have full : u.value % 16 ^ 32 = u.value := Nat.mod_eq_of_lt (u.isLt.trans_eq (by decide))
  have length : u.digits.length = 32 := length_hexNumeral 32 u.value
  have read : u.digits.mapM hexValue? = some values := by
    rw [digits, written, mapM_hexValue?_map_hexDigit small]
  rw [ofDigits?, if_pos length, read]
  simp only [value, full]
  exact dif_pos u.isLt

/-- The groups of 32 digits, taken apart again. -/
theorem ungrouped?_grouped (length : ds.length = 32) (joined : '-' ∉ ds) :
    ungrouped? (grouped ds) = some ds := by
  have part {l : List Char} (sub : l ⊆ ds) : '-' ∉ l := fun mem => joined (sub mem)
  have inner (i j : Nat) : (ds.drop i).take j ⊆ ds :=
    fun _ mem => List.mem_of_mem_drop (List.mem_of_mem_take mem)
  have join (i j : Nat) : (ds.drop i).take j ++ ds.drop (i + j) = ds.drop i := by
    rw [← List.drop_drop, List.take_append_drop]
  have parts : Text.splitAll '-' (grouped ds) =
      [ds.take 8, (ds.drop 8).take 4, (ds.drop 12).take 4, (ds.drop 16).take 4, ds.drop 20] := by
    rw [grouped, List.append_assoc, List.append_assoc, List.append_assoc]
    simp only [List.cons_append]
    rw [Text.splitAll_eq_splitOn,
      List.splitOn_append_cons_self_of_not_mem (part (List.take_subset 8 ds)),
      List.splitOn_append_cons_self_of_not_mem (part (inner 8 4)),
      List.splitOn_append_cons_self_of_not_mem (part (inner 12 4)),
      List.splitOn_append_cons_self_of_not_mem (part (inner 16 4)),
      List.splitOn_eq_singleton (part (List.drop_subset 20 ds))]
  rw [ungrouped?, parts]
  simp only [List.length_take, List.length_drop, length, List.append_assoc]
  rw [if_pos (by decide), join 16 4, join 12 4, join 8 4, List.take_append_drop]

/-- **The strict reader takes the canonical text.** -/
theorem ofFormatted?_text (u : Uuid) : ofFormatted? u.text.toList = some u := by
  have joined : '-' ∉ u.digits := by
    intro mem
    obtain ⟨d, small, same⟩ := exists_digit_of_mem mem
    exact (Number.hexDigit_ne small).2.1 same
  have length : u.digits.length = 32 := length_hexNumeral 32 u.value
  have whole : (grouped u.digits).length = 36 := by
    simp [grouped, length]
  rw [text, String.toList_ofList, ofFormatted?, whole, if_neg (by decide), if_pos rfl,
    ungrouped?_grouped length joined, Option.bind_some, ofDigits?_digits]

end Uuid

/-! ## Identifiers in requests -/

/-- A request to end a session is read if its identifier is, and not otherwise. -/
theorem LogoutForm.ofJson_eq_ok_iff {members : List (String × Json)} {text : String}
    {form : LogoutForm} (named : Json.lookup? "session_id" members = some (.text text)) :
    LogoutForm.ofJson (.object members) = .ok form ↔
      Uuid.ofFormatted? text.toList = some form.sessionId := by
  have look : (Json.object members).member? "session_id" = some (.text text) := named
  have read : LogoutForm.ofJson (.object members) =
      (Checked.under "session_id" (Form.uuidOf (.text text))).bind fun id => .ok ⟨id⟩ := by
    rw [LogoutForm.ofJson, Form.ofObject, Form.field, look]
    rfl
  rw [read, Form.uuidOf]
  cases Uuid.ofFormatted? text.toList with
  | none => simp [Checked.fail, Checked.under, Except.bind]
  | some id =>
    obtain ⟨other⟩ := form
    simp [Checked.under, Except.bind]

namespace Service

theorem parseId_eq (field text : String) : parseId field text =
    (Uuid.ofLoose? text.toList).elim (.error (.app (.malformedId field))) .ok := by
  unfold parseId
  cases Uuid.ofLoose? text.toList <;> rfl

theorem integer?_of_parseId {field text : String} {id : Uuid} (read : parseId field text = .ok id) :
    Number.integer? 16 (Uuid.unmarked text.toList) = some (id.value : Int) := by
  rw [parseId_eq] at read
  cases loose : Uuid.ofLoose? text.toList with
  | none => cases loose ▸ read
  | some id' =>
    obtain rfl := Except.ok.inj (loose ▸ read : Except.ok id' = Except.ok id)
    exact Uuid.ofLoose?_eq_some loose

/-- **The two readers agree, and each identifier has a text that both read as it.** What the form
for ending a session takes as an identifier, the lenient reader takes as the same. What the lenient
reader takes is the number that is left without the marks, which has at most 128 bits, and its
canonical text is taken by both, as the same identifier again. Whatever the lenient reader does not
take is a validation error for the field, and nothing else. -/
theorem parseId_retraction :
    (∀ (doc : Json) (field text : String) (form : LogoutForm),
      doc.member? "session_id" = some (.text text) → LogoutForm.ofJson doc = .ok form →
        parseId field text = .ok form.sessionId) ∧
    (∀ (field text : String) (id : Uuid), parseId field text = .ok id →
      Number.integer? 16 (Uuid.unmarked text.toList) = some (id.value : Int) ∧
      id.value < 2 ^ 128 ∧ parseId field id.text = .ok id ∧
      ∀ members, Json.lookup? "session_id" members = some (.text id.text) →
        LogoutForm.ofJson (.object members) = .ok ⟨id⟩) ∧
    ∀ (field text : String) (e : Failure), parseId field text = .error e →
      e = .app (.malformedId field) ∧ e.name = "ValidationError" := by
  refine ⟨fun doc field text form named read => ?_, fun field text id read => ⟨?_, ?_, ?_, ?_⟩,
    fun field text e refused => ?_⟩
  · cases doc with
    | object members =>
      have strict := (LogoutForm.ofJson_eq_ok_iff named).mp read
      rw [parseId_eq, Uuid.ofLoose?_of_ofFormatted? strict, Option.elim_some]
    | _ => exact nomatch named
  · exact integer?_of_parseId read
  · exact id.isLt.trans_eq (by decide)
  · rw [parseId_eq, Uuid.ofLoose?_text, Option.elim_some]
  · intro members named
    exact (LogoutForm.ofJson_eq_ok_iff named).mpr (Uuid.ofFormatted?_text id)
  · rw [parseId_eq] at refused
    cases read : Uuid.ofLoose? text.toList with
    | some id => exact nomatch (read ▸ refused)
    | none =>
      obtain rfl := Except.error.inj (read ▸ refused : Except.error _ = Except.error e)
      exact ⟨rfl, rfl⟩

/-- An identifier in braces, and the same in a text that only the lenient reader takes. -/
theorem parseId_of_capitals :
    let braced := "\x7b0000000A-0000-4000-8000-00000000000B\x7d"
    let marked := "0x_0000A-0000-4000-8000-00000000000B"
    let id : Uuid := ⟨0xa00004000800000000000000b, by decide⟩
    LogoutForm.ofJson (.object [("session_id", .text braced)]) = .ok ⟨id⟩ ∧
      parseId "session_id" braced = .ok id ∧ parseId "session_id" marked = .ok id ∧
      LogoutForm.ofJson (.object [("session_id", .text id.text)]) = .ok ⟨id⟩ := by
  intro braced marked id
  have strict : Uuid.ofFormatted? braced.toList = some id := by decide
  have loose : Uuid.ofLoose? marked.toList = some id := by decide
  have read : LogoutForm.ofJson (.object [("session_id", .text braced)]) = .ok ⟨id⟩ :=
    (LogoutForm.ofJson_eq_ok_iff rfl).mpr strict
  have lenient : parseId "session_id" marked = .ok id := by
    rw [parseId_eq, loose, Option.elim_some]
  exact ⟨read, parseId_retraction.1 _ "session_id" braced ⟨id⟩ rfl read, lenient,
    (parseId_retraction.2.1 "session_id" marked id lenient).2.2.2 _ rfl⟩

end Service
end LoginGate
