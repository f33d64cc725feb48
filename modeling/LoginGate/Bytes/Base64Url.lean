/-!
# Bytes/Base64Url — bytes as text in the URL-safe alphabet

Each three bytes become four characters of six bits; one or two bytes left over become two or three
characters. Writing adds no padding. Reading is strict: the bits that a short last group leaves over
must be zero, so each sequence of bytes has one unpadded form.
-/

namespace LoginGate.Bytes

/-- The character for six bits. -/
def sextetChar (n : Nat) : Char :=
  if n < 26 then Char.ofNat (65 + n)
  else if n < 52 then Char.ofNat (71 + n)
  else if n < 62 then Char.ofNat (n - 4)
  else if n = 62 then '-' else '_'

/-- The six bits of a character of the alphabet. -/
def sextet? (c : Char) : Option Nat :=
  if 'A' ≤ c ∧ c ≤ 'Z' then some (c.toNat - 65)
  else if 'a' ≤ c ∧ c ≤ 'z' then some (c.toNat - 71)
  else if '0' ≤ c ∧ c ≤ '9' then some (c.toNat + 4)
  else if c = '-' then some 62
  else if c = '_' then some 63
  else none

/-- The unpadded text of some bytes. -/
def toBase64Url : List UInt8 → List Char
  | [] => []
  | [a] => [sextetChar (a.toNat / 4), sextetChar (a.toNat % 4 * 16)]
  | [a, b] =>
    [sextetChar (a.toNat / 4), sextetChar (a.toNat % 4 * 16 + b.toNat / 16),
      sextetChar (b.toNat % 16 * 4)]
  | a :: b :: c :: rest =>
    sextetChar (a.toNat / 4) :: sextetChar (a.toNat % 4 * 16 + b.toNat / 16) ::
      sextetChar (b.toNat % 16 * 4 + c.toNat / 64) :: sextetChar (c.toNat % 64) ::
      toBase64Url rest

/-- The bytes of an unpadded text; bits left over must be zero. -/
def ofUnpadded? : List Char → Option (List UInt8)
  | [] => some []
  | [_] => none
  | [w, x] => do
    let w ← sextet? w
    let x ← sextet? x
    if x % 16 = 0 then some [UInt8.ofNat (w * 4 + x / 16)] else none
  | [w, x, y] => do
    let w ← sextet? w
    let x ← sextet? x
    let y ← sextet? y
    if y % 4 = 0 then
      some [UInt8.ofNat (w * 4 + x / 16), UInt8.ofNat (x % 16 * 16 + y / 4)]
    else none
  | w :: x :: y :: z :: rest => do
    let w ← sextet? w
    let x ← sextet? x
    let y ← sextet? y
    let z ← sextet? z
    let bytes ← ofUnpadded? rest
    some (UInt8.ofNat (w * 4 + x / 16) :: UInt8.ofNat (x % 16 * 16 + y / 4) ::
      UInt8.ofNat (y % 4 * 64 + z) :: bytes)

/-- **Padding is allowed but not asked for**: one or two `=` that fill the last group of four. -/
def ofBase64Url? (s : List Char) : Option (List UInt8) :=
  let core := (s.reverse.dropWhile (· == '=')).reverse
  let padding := s.length - core.length
  if padding = 0 ∨ (padding ≤ 2 ∧ s.length % 4 = 0) then ofUnpadded? core else none

theorem sextet?_sextetChar {n : Nat} (h : n < 64) : sextet? (sextetChar n) = some n := by
  revert n; decide

theorem sextetChar_ne_pad {n : Nat} (h : n < 64) : sextetChar n ≠ '=' := by
  revert n; decide

/-- **Reading undoes writing.** -/
@[simp] theorem ofUnpadded?_toBase64Url (bs : List UInt8) :
    ofUnpadded? (toBase64Url bs) = some bs := by
  fun_induction toBase64Url bs with
  | case1 => rfl
  | case2 a =>
    have ha : a.toNat < 256 := a.toNat_lt
    have h1 : a.toNat / 4 * 4 + a.toNat % 4 * 16 / 16 = a.toNat := by omega
    have h2 : a.toNat % 4 * 16 % 16 = 0 := by omega
    simp only [ofUnpadded?, sextet?_sextetChar (show a.toNat / 4 < 64 by omega),
      sextet?_sextetChar (show a.toNat % 4 * 16 < 64 by omega), Option.bind_eq_bind,
      Option.bind_some, h1, h2, if_true, UInt8.ofNat_toNat]
  | case3 a b =>
    have ha : a.toNat < 256 := a.toNat_lt
    have hb : b.toNat < 256 := b.toNat_lt
    have h1 : a.toNat / 4 * 4 + (a.toNat % 4 * 16 + b.toNat / 16) / 16 = a.toNat := by omega
    have h2 : (a.toNat % 4 * 16 + b.toNat / 16) % 16 * 16 + b.toNat % 16 * 4 / 4 = b.toNat := by
      omega
    have h3 : b.toNat % 16 * 4 % 4 = 0 := by omega
    simp only [ofUnpadded?, sextet?_sextetChar (show a.toNat / 4 < 64 by omega),
      sextet?_sextetChar (show a.toNat % 4 * 16 + b.toNat / 16 < 64 by omega),
      sextet?_sextetChar (show b.toNat % 16 * 4 < 64 by omega), Option.bind_eq_bind,
      Option.bind_some, h1, h2, h3, if_true, UInt8.ofNat_toNat]
  | case4 a b c rest ih =>
    have ha : a.toNat < 256 := a.toNat_lt
    have hb : b.toNat < 256 := b.toNat_lt
    have hc : c.toNat < 256 := c.toNat_lt
    have h1 : a.toNat / 4 * 4 + (a.toNat % 4 * 16 + b.toNat / 16) / 16 = a.toNat := by omega
    have h2 : (a.toNat % 4 * 16 + b.toNat / 16) % 16 * 16 + (b.toNat % 16 * 4 + c.toNat / 64) / 4
        = b.toNat := by omega
    have h3 : (b.toNat % 16 * 4 + c.toNat / 64) % 4 * 64 + c.toNat % 64 = c.toNat := by omega
    simp only [ofUnpadded?, sextet?_sextetChar (show a.toNat / 4 < 64 by omega),
      sextet?_sextetChar (show a.toNat % 4 * 16 + b.toNat / 16 < 64 by omega),
      sextet?_sextetChar (show b.toNat % 16 * 4 + c.toNat / 64 < 64 by omega),
      sextet?_sextetChar (show c.toNat % 64 < 64 by omega), Option.bind_eq_bind,
      Option.bind_some, ih, h1, h2, h3, UInt8.ofNat_toNat]

/-- **Nothing is written but the alphabet.** -/
theorem exists_sextet_of_mem {bs : List UInt8} {c : Char} (h : c ∈ toBase64Url bs) :
    ∃ n, n < 64 ∧ sextetChar n = c := by
  fun_induction toBase64Url bs with
  | case1 => simp at h
  | case2 a =>
    have ha : a.toNat < 256 := a.toNat_lt
    simp only [List.mem_cons, List.not_mem_nil, or_false] at h
    obtain rfl | rfl := h
    · exact ⟨_, by omega, rfl⟩
    · exact ⟨_, by omega, rfl⟩
  | case3 a b =>
    have ha : a.toNat < 256 := a.toNat_lt
    have hb : b.toNat < 256 := b.toNat_lt
    simp only [List.mem_cons, List.not_mem_nil, or_false] at h
    obtain rfl | rfl | rfl := h
    · exact ⟨_, by omega, rfl⟩
    · exact ⟨_, by omega, rfl⟩
    · exact ⟨_, by omega, rfl⟩
  | case4 a b c rest ih =>
    have ha : a.toNat < 256 := a.toNat_lt
    have hb : b.toNat < 256 := b.toNat_lt
    have hc : c.toNat < 256 := c.toNat_lt
    simp only [List.mem_cons] at h
    obtain rfl | rfl | rfl | rfl | h := h
    · exact ⟨_, by omega, rfl⟩
    · exact ⟨_, by omega, rfl⟩
    · exact ⟨_, by omega, rfl⟩
    · exact ⟨_, by omega, rfl⟩
    · exact ih h

theorem pad_notMem_toBase64Url (bs : List UInt8) : '=' ∉ toBase64Url bs := by
  intro mem
  obtain ⟨n, small, same⟩ := exists_sextet_of_mem mem
  exact sextetChar_ne_pad small same

/-- The dot that separates the segments of a token stands in none of them. -/
theorem dot_notMem_toBase64Url (bs : List UInt8) : '.' ∉ toBase64Url bs := by
  intro mem
  obtain ⟨n, small, same⟩ := exists_sextet_of_mem mem
  have other : ∀ n, n < 64 → sextetChar n ≠ '.' := by decide
  exact other n small same

/-- Reading undoes writing also where padding would be accepted. -/
@[simp] theorem ofBase64Url?_toBase64Url (bs : List UInt8) :
    ofBase64Url? (toBase64Url bs) = some bs := by
  have hdrop : ∀ s : List Char, '=' ∉ s → s.dropWhile (· == '=') = s := by
    intro s hs
    cases s with
    | nil => rfl
    | cons c r =>
      have : c ≠ '=' := fun h => hs (by simp [h])
      simp [this]
  have hcore : ((toBase64Url bs).reverse.dropWhile (· == '=')).reverse = toBase64Url bs := by
    rw [hdrop _ (by simpa using pad_notMem_toBase64Url bs), List.reverse_reverse]
  simp [ofBase64Url?, hcore]

end LoginGate.Bytes
