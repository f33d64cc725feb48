import LoginGate.Bytes.Lossy

/-!
# Proofs/Utf8 — reading UTF-8 undoes writing it

A character is written in one to four bytes, by its size. The first byte says how many there are,
and the form is never overlong, so the strict reader takes the bytes of each character and nothing
else. The lenient reader does the same, one byte after another: the second byte is within the bounds
that the first one sets, since the form is neither overlong nor that of half a surrogate pair.
-/

namespace LoginGate.Bytes

/-! ## Single bytes -/

/-- A continuation byte holds six bits. -/
theorem continuation?_ofNat {n : Nat} (h : n < 64) :
    continuation? (UInt8.ofNat (n + 128)) = some n := by
  revert n; decide

theorem first_of_one {n : Nat} (h : n < 128) :
    UInt8.ofNat n < 0x80 ∧ (UInt8.ofNat n).toNat = n := by
  revert n; decide

theorem first_of_two {n : Nat} (high : n < 32) (low : 2 ≤ n) :
    ¬ UInt8.ofNat (n + 192) < 0x80 ∧ ¬ UInt8.ofNat (n + 192) < 0xc2 ∧
      UInt8.ofNat (n + 192) < 0xe0 ∧ (UInt8.ofNat (n + 192)).toNat - 0xc0 = n := by
  revert n; decide

theorem first_of_three {n : Nat} (h : n < 16) :
    ¬ UInt8.ofNat (n + 224) < 0x80 ∧ ¬ UInt8.ofNat (n + 224) < 0xc2 ∧
      ¬ UInt8.ofNat (n + 224) < 0xe0 ∧ UInt8.ofNat (n + 224) < 0xf0 ∧
        (UInt8.ofNat (n + 224)).toNat - 0xe0 = n := by
  revert n; decide

theorem first_of_four {n : Nat} (h : n < 5) :
    ¬ UInt8.ofNat (n + 240) < 0x80 ∧ ¬ UInt8.ofNat (n + 240) < 0xc2 ∧
      ¬ UInt8.ofNat (n + 240) < 0xe0 ∧ ¬ UInt8.ofNat (n + 240) < 0xf0 ∧
        UInt8.ofNat (n + 240) < 0xf5 ∧ (UInt8.ofNat (n + 240)).toNat - 0xf0 = n := by
  revert n; decide

/-! ## Characters -/

/-- A character is the symbol with its code point. -/
theorem symbol?_toNat (c : Char) : symbol? c.toNat = some (some c) := by
  have valid : c.toNat < 0xd800 ∨ 0xdfff < c.toNat ∧ c.toNat < 0x110000 := c.valid
  rw [symbol?, if_neg (by omega), if_pos (by omega), Char.ofNat_toNat]

/-- What is left to do once the code point and the rest are known. -/
theorem bind_symbol {n : Nat} {c : Char} (same : n = c.toNat) (tail : Option (List Symbol)) :
    (tail.bind fun tail => (symbol? n).bind fun s => some (s :: tail)) =
      tail.map (some c :: ·) := by
  rw [same, symbol?_toNat]
  cases tail <;> rfl

theorem ofUtf8?_two {a b : Nat} (ha : a < 32) (low : 2 ≤ a) (hb : b < 64) (rest : List UInt8) :
    ofUtf8? (UInt8.ofNat (a + 192) :: UInt8.ofNat (b + 128) :: rest) =
      (ofUtf8? rest).bind fun tail => (symbol? (a * 64 + b)).bind fun s => some (s :: tail) := by
  obtain ⟨a₁, a₂, a₃, same⟩ := first_of_two ha low
  rw [ofUtf8?, if_neg a₁, if_neg a₂, if_pos a₃]
  simp only [continuation?_ofNat hb, same, Option.bind_eq_bind, Option.bind_some]

/-- Three bytes are read as one code point unless two would have been enough. -/
theorem ofUtf8?_three {a b c : Nat} (ha : a < 16) (hb : b < 64) (hc : c < 64)
    (needed : ¬ (a * 64 + b) * 64 + c < 0x800) (rest : List UInt8) :
    ofUtf8? (UInt8.ofNat (a + 224) :: UInt8.ofNat (b + 128) :: UInt8.ofNat (c + 128) :: rest) =
      (ofUtf8? rest).bind fun tail =>
        (symbol? ((a * 64 + b) * 64 + c)).bind fun s => some (s :: tail) := by
  obtain ⟨a₁, a₂, a₃, a₄, same⟩ := first_of_three ha
  rw [ofUtf8?, if_neg a₁, if_neg a₂, if_neg a₃, if_pos a₄]
  simp only [continuation?_ofNat hb, continuation?_ofNat hc, same, Option.bind_eq_bind,
    Option.bind_some]
  rw [if_neg needed]

/-- Four bytes are read as one code point unless three would have been enough. -/
theorem ofUtf8?_four {a b c d : Nat} (ha : a < 5) (hb : b < 64) (hc : c < 64) (hd : d < 64)
    (needed : ¬ ((a * 64 + b) * 64 + c) * 64 + d < 0x10000) (rest : List UInt8) :
    ofUtf8? (UInt8.ofNat (a + 240) :: UInt8.ofNat (b + 128) :: UInt8.ofNat (c + 128) ::
      UInt8.ofNat (d + 128) :: rest) =
        (ofUtf8? rest).bind fun tail =>
          (symbol? (((a * 64 + b) * 64 + c) * 64 + d)).bind fun s => some (s :: tail) := by
  obtain ⟨a₁, a₂, a₃, a₄, a₅, same⟩ := first_of_four ha
  rw [ofUtf8?, if_neg a₁, if_neg a₂, if_neg a₃, if_neg a₄, if_pos a₅]
  simp only [continuation?_ofNat hb, continuation?_ofNat hc, continuation?_ofNat hd, same,
    Option.bind_eq_bind, Option.bind_some]
  rw [if_neg needed]

/-- **The reader takes the bytes of a character** from the front. -/
theorem ofUtf8?_utf8EncodeChar (c : Char) (rest : List UInt8) :
    ofUtf8? (String.utf8EncodeChar c ++ rest) = (ofUtf8? rest).map (some c :: ·) := by
  have valid : c.toNat < 0xd800 ∨ 0xdfff < c.toNat ∧ c.toNat < 0x110000 := c.valid
  have value : c.val.toNat = c.toNat := rfl
  have low (n : Nat) : n % 64 < 64 := Nat.mod_lt _ (by decide)
  unfold String.utf8EncodeChar
  simp only [value]
  split
  · obtain ⟨small, same⟩ := first_of_one (n := c.toNat) (by omega)
    rw [List.singleton_append, ofUtf8?.eq_def]
    simp only
    rw [if_pos small, same, Char.ofNat_toNat]
  split
  · exact (ofUtf8?_two (by omega) (by omega) (low _) rest).trans (bind_symbol (by omega) _)
  split
  · exact (ofUtf8?_three (by omega) (low _) (low _) (by omega) rest).trans
      (bind_symbol (by omega) _)
  · exact (ofUtf8?_four (by omega) (low _) (low _) (low _) (by omega) rest).trans
      (bind_symbol (by omega) _)

/-- **Reading undoes writing.** -/
theorem ofUtf8?_utf8 (s : List Char) : ofUtf8? (utf8 s) = some (s.map some) := by
  induction s with
  | nil => rfl
  | cons c rest ih =>
    rw [utf8, List.flatMap_cons, ofUtf8?_utf8EncodeChar]
    change (ofUtf8? (utf8 rest)).map (some c :: ·) = _
    rw [ih]
    rfl

/-! ## The lenient reader -/

/-- The bits of a continuation byte. -/
theorem continuation_toNat {n : Nat} (h : n < 64) :
    (UInt8.ofNat (n + 128)).toNat = n + 128 := by
  revert n; decide

/-- A byte that may come next goes on with a character begun. -/
theorem lossyFrom_continue {s : Begun} {n : Nat} (h : n < 64)
    (within : s.least.toNat ≤ n + 128 ∧ n + 128 ≤ s.greatest.toNat) (rest : List UInt8) :
    lossyFrom (some s) (UInt8.ofNat (n + 128) :: rest) =
      if s.missing ≤ 1 then Char.ofNat (s.bits * 64 + n) :: lossyFrom none rest
      else lossyFrom (some ⟨s.missing - 1, 0x80, 0xbf, s.bits * 64 + n⟩) rest := by
  have value := continuation_toNat h
  have may : s.least ≤ UInt8.ofNat (n + 128) ∧ UInt8.ofNat (n + 128) ≤ s.greatest := by
    rw [UInt8.le_iff_toNat_le, UInt8.le_iff_toNat_le, value]
    exact within
  rw [lossyFrom, if_pos may, value, Nat.add_sub_cancel]

theorem begin_of_two {n : Nat} (high : n < 32) (low : 2 ≤ n) :
    begin (UInt8.ofNat (n + 192)) = (none, some ⟨1, 0x80, 0xbf, n⟩) := by
  obtain ⟨a₁, a₂, a₃, same⟩ := first_of_two high low
  rw [begin, if_neg a₁, if_neg a₂, if_pos a₃, same]

theorem begin_of_three {n : Nat} (h : n < 16) :
    begin (UInt8.ofNat (n + 224)) = (none, some ⟨2, if n = 0 then 0xa0 else 0x80,
      if n = 13 then 0x9f else 0xbf, n⟩) := by
  have bounds : (UInt8.ofNat (n + 224) = 0xe0 ↔ n = 0) ∧
      (UInt8.ofNat (n + 224) = 0xed ↔ n = 13) := by
    revert n; decide
  obtain ⟨a₁, a₂, a₃, a₄, same⟩ := first_of_three h
  rw [begin, if_neg a₁, if_neg a₂, if_neg a₃, if_pos a₄, same]
  simp only [bounds]

theorem begin_of_four {n : Nat} (h : n < 5) :
    begin (UInt8.ofNat (n + 240)) = (none, some ⟨3, if n = 0 then 0x90 else 0x80,
      if n = 4 then 0x8f else 0xbf, n⟩) := by
  have bounds : (UInt8.ofNat (n + 240) = 0xf0 ↔ n = 0) ∧
      (UInt8.ofNat (n + 240) = 0xf4 ↔ n = 4) := by
    revert n; decide
  obtain ⟨a₁, a₂, a₃, a₄, a₅, same⟩ := first_of_four h
  rw [begin, if_neg a₁, if_neg a₂, if_neg a₃, if_neg a₄, if_pos a₅, same]
  simp only [bounds]

/-- Past the second byte of a character any continuation byte may come: one that leaves others
missing, and the last one. -/
theorem lossyFrom_middle {missing bits n : Nat} (h : n < 64) (more : ¬ missing ≤ 1)
    (rest : List UInt8) :
    lossyFrom (some ⟨missing, 0x80, 0xbf, bits⟩) (UInt8.ofNat (n + 128) :: rest) =
      lossyFrom (some ⟨missing - 1, 0x80, 0xbf, bits * 64 + n⟩) rest := by
  have within : n + 128 ≤ (0xbf : UInt8).toNat := Nat.add_le_add_right (Nat.le_of_lt_succ h) 128
  rw [lossyFrom_continue (s := ⟨missing, 0x80, 0xbf, bits⟩) h ⟨Nat.le_add_left _ _, within⟩,
    if_neg more]

theorem lossyFrom_last {bits n : Nat} (h : n < 64) (rest : List UInt8) :
    lossyFrom (some ⟨1, 0x80, 0xbf, bits⟩) (UInt8.ofNat (n + 128) :: rest) =
      Char.ofNat (bits * 64 + n) :: lossyFrom none rest := by
  have within : n + 128 ≤ (0xbf : UInt8).toNat := Nat.add_le_add_right (Nat.le_of_lt_succ h) 128
  rw [lossyFrom_continue (s := ⟨1, 0x80, 0xbf, bits⟩) h ⟨Nat.le_add_left _ _, within⟩,
    if_pos (Nat.le_refl 1)]

theorem lossyFrom_two {a b : Nat} (ha : a < 32) (low : 2 ≤ a) (hb : b < 64) (rest : List UInt8) :
    lossyFrom none (UInt8.ofNat (a + 192) :: UInt8.ofNat (b + 128) :: rest) =
      Char.ofNat (a * 64 + b) :: lossyFrom none rest := by
  rw [lossyFrom, begin_of_two ha low]
  exact lossyFrom_last hb rest

/-- The second byte is within the bounds that the first one sets. -/
theorem second_within {a b last : Nat} (least greatest : UInt8) (hb : b < 64)
    (needed : a = 0 → least.toNat ≤ b + 128) (inRange : a = last → b + 128 ≤ greatest.toNat) :
    (if a = 0 then least else 0x80 : UInt8).toNat ≤ b + 128 ∧
      b + 128 ≤ (if a = last then greatest else 0xbf : UInt8).toNat := by
  constructor
  · split
    · exact needed ‹_›
    · exact Nat.le_add_left _ _
  · split
    · exact inRange ‹_›
    · exact Nat.add_le_add_right (Nat.le_of_lt_succ hb) 128

/-- Three bytes are a character unless two would have been enough, or it is half of a pair. -/
theorem lossyFrom_three {a b c : Nat} (ha : a < 16) (hb : b < 64) (hc : c < 64)
    (needed : a = 0 → 32 ≤ b) (whole : a = 13 → b < 32) (rest : List UInt8) :
    lossyFrom none (UInt8.ofNat (a + 224) :: UInt8.ofNat (b + 128) :: UInt8.ofNat (c + 128) ::
      rest) = Char.ofNat ((a * 64 + b) * 64 + c) :: lossyFrom none rest := by
  have within := second_within 0xa0 0x9f hb (fun zero => Nat.add_le_add_right (needed zero) 128)
    fun last => Nat.add_le_add_right (Nat.le_of_lt_succ (whole last)) 128
  rw [lossyFrom, begin_of_three ha]
  simp only
  rw [lossyFrom_continue hb within]
  exact lossyFrom_last hc rest

/-- Four bytes are a character unless three would have been enough, or it is past the last one. -/
theorem lossyFrom_four {a b c d : Nat} (ha : a < 5) (hb : b < 64) (hc : c < 64) (hd : d < 64)
    (needed : a = 0 → 16 ≤ b) (inRange : a = 4 → b < 16) (rest : List UInt8) :
    lossyFrom none (UInt8.ofNat (a + 240) :: UInt8.ofNat (b + 128) :: UInt8.ofNat (c + 128) ::
      UInt8.ofNat (d + 128) :: rest) =
        Char.ofNat (((a * 64 + b) * 64 + c) * 64 + d) :: lossyFrom none rest := by
  have within := second_within 0x90 0x8f hb (fun zero => Nat.add_le_add_right (needed zero) 128)
    fun last => Nat.add_le_add_right (Nat.le_of_lt_succ (inRange last)) 128
  rw [lossyFrom, begin_of_four ha]
  simp only
  rw [lossyFrom_continue hb within]
  have more : ¬ (2 : Nat) ≤ 1 := by decide
  exact (lossyFrom_middle hc more _).trans (lossyFrom_last hd rest)

/-- **The lenient reader takes the bytes of a character** from the front as well. -/
theorem lossyFrom_utf8EncodeChar (c : Char) (rest : List UInt8) :
    lossyFrom none (String.utf8EncodeChar c ++ rest) = c :: lossyFrom none rest := by
  have valid : c.toNat < 0xd800 ∨ 0xdfff < c.toNat ∧ c.toNat < 0x110000 := c.valid
  have value : c.val.toNat = c.toNat := rfl
  have low (n : Nat) : n % 64 < 64 := Nat.mod_lt _ (by decide)
  have read {n : Nat} (same : n = c.toNat) :
      Char.ofNat n :: lossyFrom none rest = c :: lossyFrom none rest := by
    rw [same, Char.ofNat_toNat]
  unfold String.utf8EncodeChar
  simp only [value]
  split
  · obtain ⟨small, same⟩ := first_of_one (n := c.toNat) (by omega)
    rw [List.singleton_append, lossyFrom, begin, if_pos small, same, Char.ofNat_toNat]
  split
  · exact (lossyFrom_two (by omega) (by omega) (low _) rest).trans (read (by omega))
  split
  · exact (lossyFrom_three (by omega) (low _) (low _) (by omega) (by omega) rest).trans
      (read (by omega))
  · exact (lossyFrom_four (by omega) (low _) (low _) (low _) (by omega) (by omega) rest).trans
      (read (by omega))

/-- **Reading leniently undoes writing.** -/
theorem lossy_utf8 (s : List Char) : lossy (utf8 s) = s := by
  unfold lossy
  induction s with
  | nil => rfl
  | cons c rest ih =>
    rw [utf8, List.flatMap_cons, lossyFrom_utf8EncodeChar]
    exact congrArg _ ih

end LoginGate.Bytes
