import LoginGate.Bytes.Hex
import LoginGate.Number.IntegerText
import Mathlib.Algebra.Group.Nat.Defs
import Mathlib.Data.List.Basic

/-!
# Proofs/Numerals — integers read back from their digits

Where an integer is written by itself, as ASCII digits and nothing else, the lenient reader has no
choice: there is nothing to trim, no sign, no underscore and no mark of a base. So it gives back
the number that the digits stand for, in base ten as in base sixteen.
-/

namespace LoginGate.Number

open LoginGate.Bytes (hexDigit hexNumeral)

/-! ## Single digits -/

theorem isPadding_hexDigit {d : Nat} (h : d < 16) : isPadding (hexDigit d) = false := by
  revert d; decide

theorem plainDigit_hexDigit {d : Nat} (h : d < 16) : plainDigit (hexDigit d) = hexDigit d := by
  revert d; decide

/-- A digit is none of the characters that mean something else in a numeral. -/
theorem hexDigit_ne {d : Nat} (h : d < 16) : hexDigit d ≠ '+' ∧ hexDigit d ≠ '-' ∧
    hexDigit d ≠ '_' ∧ hexDigit d ≠ 'x' ∧ hexDigit d ≠ 'X' := by
  revert d; decide

/-- A base in which numerals are read. -/
def IsBase (base : Nat) : Prop := base = 10 ∨ base = 16

theorem IsBase.le_sixteen {base : Nat} (h : IsBase base) : base ≤ 16 := by
  obtain rfl | rfl := h <;> decide

theorem digitIn?_hexDigit {base d : Nat} (hb : IsBase base) (h : d < base) :
    digitIn? base (hexDigit d) = some d := by
  obtain rfl | rfl := hb
  · revert d; decide
  · revert d; decide

/-- An ASCII digit is the digit of a value below ten. -/
theorem eq_hexDigit_of_isDigit {c : Char} (h : c.isDigit = true) :
    c.toNat - 48 < 10 ∧ hexDigit (c.toNat - 48) = c := by
  obtain ⟨low, high⟩ := Char.isDigit_iff_toNat.mp h
  have low : 48 ≤ c.toNat := low
  have high : c.toNat ≤ 57 := high
  have small : c.toNat - 48 < 10 := by omega
  refine ⟨small, ?_⟩
  rw [hexDigit, if_pos small, Nat.add_sub_cancel' low, Char.ofNat_toNat]

/-! ## Runs of digits -/

variable {base : Nat} {ds : List Nat}

/-- **Digits without underscores are read one by one.** -/
theorem digitRun?_of_mapM {s : List Char} (read : s.mapM (digitIn? base) = some ds)
    (joined : '_' ∉ s) (ne : s ≠ []) : digitRun? base s = some ds := by
  induction s generalizing ds with
  | nil => exact absurd rfl ne
  | cons c rest ih =>
    obtain ⟨d, value, rest', later, rfl⟩ : ∃ d, digitIn? base c = some d ∧
        ∃ ds', rest.mapM (digitIn? base) = some ds' ∧ d :: ds' = ds := by
      simpa [Option.bind_eq_some_iff] using read
    cases rest with
    | nil =>
      obtain rfl : [] = rest' := Option.some.inj later
      simp [digitRun?, value]
    | cons e rest =>
      have single : e ≠ '_' := fun same => joined (same ▸ List.mem_cons_of_mem c List.mem_cons_self)
      have run := ih later (fun mem => joined (List.mem_cons_of_mem c mem))
        (List.cons_ne_nil e rest)
      rw [digitRun?.eq_4 _ _ _ (by simp) (by simpa using single), value, run]
      rfl

/-- The digits of values are read as these. -/
theorem mapM_digitIn?_hexDigit (hb : IsBase base) (digits : ∀ d ∈ ds, d < base) :
    (ds.map hexDigit).mapM (digitIn? base) = some ds := by
  induction ds with
  | nil => rfl
  | cons d rest ih =>
    obtain ⟨first, later⟩ := List.forall_mem_cons.mp digits
    rw [List.map_cons, List.mapM_cons, digitIn?_hexDigit hb first, ih later]
    rfl

theorem digitRun?_map_hexDigit (hb : IsBase base) (digits : ∀ d ∈ ds, d < base) (ne : ds ≠ []) :
    digitRun? base (ds.map hexDigit) = some ds := by
  refine digitRun?_of_mapM (mapM_digitIn?_hexDigit hb digits) (fun mem => ?_) (by simpa using ne)
  obtain ⟨d, hd, underscore⟩ := List.mem_map.mp mem
  exact (hexDigit_ne (Nat.lt_of_lt_of_le (digits d hd) hb.le_sixteen)).2.2.1 underscore

/-- Without the mark of base sixteen, a numeral in that base is a run of digits. -/
theorem magnitude?_of_unmarked {s : List Char} (unmarked : ∀ c ∈ s, c ≠ 'x' ∧ c ≠ 'X') :
    magnitude? 16 s = (digitRun? 16 s).map (ofDigits 16) := by
  rcases s with _ | ⟨c, _ | ⟨d, rest⟩⟩
  · rfl
  · cases read : digitRun? 16 [c] <;> simp [magnitude?, read]
  · obtain ⟨small, capital⟩ := unmarked d (List.mem_cons_of_mem _ List.mem_cons_self)
    cases read : digitRun? 16 (c :: d :: rest) <;> simp [magnitude?, small, capital, read]

/-- The magnitude of a run of digits is the number that they stand for. -/
theorem magnitude?_map_hexDigit (hb : IsBase base) (digits : ∀ d ∈ ds, d < base) (ne : ds ≠ [])
    (short : base = 10 → ds.length ≤ maxDecimalDigits) :
    magnitude? base (ds.map hexDigit) = some (ofDigits base ds) := by
  have run := digitRun?_map_hexDigit hb digits ne
  obtain rfl | rfl := hb
  · have within : ¬ maxDecimalDigits < ds.length := Nat.not_lt.mpr (short rfl)
    simp [magnitude?, run, within]
  · rw [magnitude?_of_unmarked, run, Option.map_some]
    intro c hc
    obtain ⟨d, hd, rfl⟩ := List.mem_map.mp hc
    exact (hexDigit_ne (digits d hd)).2.2.2

/-- A numeral with nothing around its digits is its magnitude. -/
theorem integer?_of_bare {s : List Char} (unpadded : ∀ c ∈ s, isPadding c = false)
    (plain : ∀ c ∈ s, plainDigit c = c) (unsigned : ∀ c ∈ s, c ≠ '+' ∧ c ≠ '-') :
    integer? base s = (magnitude? base s).map Int.ofNat := by
  have trimmed : Text.trimWhile isPadding s = s :=
    Text.trimWhile_eq_self (fun c hc => unpadded c (List.mem_of_head? hc))
      fun c hc => unpadded c (List.mem_of_getLast? hc)
  have same : s.map plainDigit = s := (List.map_congr_left plain).trans (List.map_id s)
  unfold integer?
  rw [trimmed, same]
  split
  · exact absurd rfl (unsigned _ List.mem_cons_self).1
  · exact absurd rfl (unsigned _ List.mem_cons_self).2
  · rfl

/-- **The lenient reader gives back the number that digits stand for.** -/
theorem integer?_map_hexDigit (hb : IsBase base) (digits : ∀ d ∈ ds, d < base) (ne : ds ≠ [])
    (short : base = 10 → ds.length ≤ maxDecimalDigits) :
    integer? base (ds.map hexDigit) = some (ofDigits base ds) := by
  have each {P : Char → Prop} (h : ∀ {d}, d < 16 → P (hexDigit d)) :
      ∀ c ∈ ds.map hexDigit, P c := by
    intro c hc
    obtain ⟨d, hd, rfl⟩ := List.mem_map.mp hc
    exact h (Nat.lt_of_lt_of_le (digits d hd) hb.le_sixteen)
  rw [integer?_of_bare (each isPadding_hexDigit) (each plainDigit_hexDigit)
    (each fun small => ⟨(hexDigit_ne small).1, (hexDigit_ne small).2.1⟩),
    magnitude?_map_hexDigit hb digits ne short]
  rfl

/-! ## Numerals as they are written -/

theorem isDigit_of_mem_decimal {n : Nat} {c : Char} (h : c ∈ decimal n) : c.isDigit = true :=
  Nat.isDigit_of_mem_toDigits (by decide) (by decide) h

theorem decimal_ne_nil (n : Nat) : decimal n ≠ [] := Nat.toDigits_ne_nil

theorem length_decimal_le_iff {n k : Nat} (hk : 0 < k) : (decimal n).length ≤ k ↔ n < 10 ^ k :=
  Nat.length_toDigits_le_iff (by decide) hk

/-- **A decimal numeral is read back**, unless it is too long to be read at all. -/
theorem integer?_decimal {n : Nat} (short : (decimal n).length ≤ maxDecimalDigits) :
    integer? 10 (decimal n) = some n := by
  have digit {c : Char} (hc : c ∈ decimal n) := eq_hexDigit_of_isDigit (isDigit_of_mem_decimal hc)
  have written : ((decimal n).map (·.toNat - 48)).map hexDigit = decimal n := by
    rw [List.map_map]
    exact (List.map_congr_left fun c hc => (digit hc).2).trans (List.map_id _)
  have value : ofDigits 10 ((decimal n).map (·.toNat - 48)) = n := by
    have same := Nat.ofDigitChars_ten_toDigits (n := n)
    rw [Nat.ofDigitChars_eq_foldl] at same
    rw [ofDigits, List.foldl_map]
    exact same
  have digits : ∀ d ∈ (decimal n).map (·.toNat - 48), d < 10 := by
    intro d hd
    obtain ⟨c, hc, rfl⟩ := List.mem_map.mp hd
    exact (digit hc).1
  have read := integer?_map_hexDigit (.inl rfl) digits (by simpa using decimal_ne_nil n)
    fun _ => by simpa using short
  rw [written, value] at read
  exact read

/-- The digits of a number in base sixteen stand for what of it fits into them. -/
theorem exists_digits_of_hexNumeral (width n : Nat) : ∃ ds : List Nat,
    hexNumeral width n = ds.map hexDigit ∧ (∀ d ∈ ds, d < 16) ∧
      ofDigits 16 ds = n % 16 ^ width := by
  induction width generalizing n with
  | zero => exact ⟨[], rfl, by simp, by simp [ofDigits, Nat.mod_one]⟩
  | succ width ih =>
    obtain ⟨ds, written, digits, value⟩ := ih (n / 16)
    refine ⟨ds ++ [n % 16], by simp [hexNumeral, written], ?_, ?_⟩
    · intro d hd
      obtain hd | hd := List.mem_append.mp hd
      · exact digits d hd
      · obtain rfl := List.mem_singleton.mp hd
        exact Nat.mod_lt _ (by decide)
    · unfold ofDigits at value ⊢
      rw [List.foldl_append, value, List.foldl_cons, List.foldl_nil, Nat.pow_succ',
        Nat.mod_mul, Nat.add_comm]

/-- **A numeral in base sixteen is read back** as what of the number fits into it. -/
theorem integer?_hexNumeral {width : Nat} (pos : 0 < width) (n : Nat) :
    integer? 16 (hexNumeral width n) = some (Int.ofNat (n % 16 ^ width)) := by
  obtain ⟨ds, written, digits, value⟩ := exists_digits_of_hexNumeral width n
  have ne : ds ≠ [] := by
    rintro rfl
    have length := congrArg List.length written
    simp only [Bytes.length_hexNumeral, List.map_nil, List.length_nil] at length
    exact absurd length (Nat.ne_of_gt pos)
  rw [written, integer?_map_hexDigit (.inr rfl) digits ne (fun h => absurd h (by decide)), value]
  rfl

end LoginGate.Number
