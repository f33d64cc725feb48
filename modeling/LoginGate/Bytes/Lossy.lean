import LoginGate.Bytes.Utf8

/-!
# Bytes/Lossy — UTF-8 read without refusing anything

Paths and cookies are read leniently: bytes that are no UTF-8 become the replacement character, one
for each longest run of bytes that starts a character and is then broken off.
-/

namespace LoginGate.Bytes

/-- The character that stands for unreadable bytes. -/
def replacement : Char := '\ufffd'

/-- A character begun: how many bytes are missing, which ones may come next, and the bits so far. -/
structure Begun where
  missing : Nat
  least : UInt8
  greatest : UInt8
  bits : Nat

/-- What a byte begins: a character of its own, nothing, or a longer character. The second byte is
confined so that overlong forms, surrogate halves and values past `0x10ffff` never come about. -/
def begin (b : UInt8) : Option Char × Option Begun :=
  if b < 0x80 then (some (Char.ofNat b.toNat), none)
  else if b < 0xc2 then (some replacement, none)
  else if b < 0xe0 then (none, some ⟨1, 0x80, 0xbf, b.toNat - 0xc0⟩)
  else if b < 0xf0 then
    let least := if b = 0xe0 then 0xa0 else 0x80
    let greatest := if b = 0xed then 0x9f else 0xbf
    (none, some ⟨2, least, greatest, b.toNat - 0xe0⟩)
  else if b < 0xf5 then
    let least := if b = 0xf0 then 0x90 else 0x80
    let greatest := if b = 0xf4 then 0x8f else 0xbf
    (none, some ⟨3, least, greatest, b.toNat - 0xf0⟩)
  else (some replacement, none)

/-- The characters of some bytes, a character being begun. -/
def lossyFrom : Option Begun → List UInt8 → List Char
  | none, [] => []
  | some _, [] => [replacement]
  | none, b :: rest =>
    match begin b with
    | (some c, begun) => c :: lossyFrom begun rest
    | (none, begun) => lossyFrom begun rest
  | some s, b :: rest =>
    if s.least ≤ b ∧ b ≤ s.greatest then
      let bits := s.bits * 64 + (b.toNat - 0x80)
      if s.missing ≤ 1 then Char.ofNat bits :: lossyFrom none rest
      else lossyFrom (some ⟨s.missing - 1, 0x80, 0xbf, bits⟩) rest
    else
      match begin b with
      | (some c, begun) => replacement :: c :: lossyFrom begun rest
      | (none, begun) => replacement :: lossyFrom begun rest

/-- **The characters of some bytes.** -/
def lossy (bytes : List UInt8) : List Char := lossyFrom none bytes

end LoginGate.Bytes
