/-!
# Bytes/Hex — bytes as pairs of hexadecimal digits

Writing uses lower-case digits, the high half of each byte first; reading takes both cases.
-/

namespace LoginGate.Bytes

/-- The lower-case digit of a value below sixteen. -/
def hexDigit (n : Nat) : Char :=
  if n < 10 then Char.ofNat (48 + n) else Char.ofNat (87 + n)

/-- The value of a hexadecimal digit. -/
def hexValue? (c : Char) : Option Nat :=
  if '0' ≤ c ∧ c ≤ '9' then some (c.toNat - 48)
  else if 'a' ≤ c ∧ c ≤ 'f' then some (c.toNat - 87)
  else if 'A' ≤ c ∧ c ≤ 'F' then some (c.toNat - 55)
  else none

/-- Two digits for each byte. -/
def toHex : List UInt8 → List Char
  | [] => []
  | b :: rest => hexDigit (b.toNat / 16) :: hexDigit (b.toNat % 16) :: toHex rest

/-- The bytes that a run of digit pairs stands for. -/
def ofHex? : List Char → Option (List UInt8)
  | [] => some []
  | [_] => none
  | hi :: lo :: rest => do
    let h ← hexValue? hi
    let l ← hexValue? lo
    let bytes ← ofHex? rest
    some (UInt8.ofNat (16 * h + l) :: bytes)

/-- `width` digits of a number, most significant first. -/
def hexNumeral : (width : Nat) → Nat → List Char
  | 0, _ => []
  | width + 1, n => hexNumeral width (n / 16) ++ [hexDigit (n % 16)]

@[simp] theorem length_toHex (bs : List UInt8) : (toHex bs).length = 2 * bs.length := by
  induction bs with
  | nil => rfl
  | cons b rest ih => simp only [toHex, List.length_cons, ih]; omega

@[simp] theorem length_hexNumeral (width n : Nat) : (hexNumeral width n).length = width := by
  induction width generalizing n with
  | zero => rfl
  | succ w ih => simp [hexNumeral, ih]

theorem hexValue?_hexDigit {n : Nat} (h : n < 16) : hexValue? (hexDigit n) = some n := by
  revert n; decide

/-- **Reading undoes writing.** -/
@[simp] theorem ofHex?_toHex (bs : List UInt8) : ofHex? (toHex bs) = some bs := by
  induction bs with
  | nil => rfl
  | cons b rest ih =>
    have hb : b.toNat < 256 := b.toNat_lt
    have hrec : 16 * (b.toNat / 16) + b.toNat % 16 = b.toNat := by omega
    simp only [toHex, ofHex?, hexValue?_hexDigit (show b.toNat / 16 < 16 by omega),
      hexValue?_hexDigit (show b.toNat % 16 < 16 by omega), ih, hrec, Option.bind_eq_bind,
      Option.bind_some, UInt8.ofNat_toNat]

/-- Different bytes are written differently. -/
theorem toHex_inj {as bs : List UInt8} : toHex as = toHex bs ↔ as = bs := by
  refine ⟨fun h => ?_, congrArg toHex⟩
  have read := congrArg ofHex? h
  simpa using read

end LoginGate.Bytes
