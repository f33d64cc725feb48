/-!
# Bytes/Utf8 — texts as UTF-8 and back

A *symbol* is a character, or `none` where a text holds half of a surrogate pair on its own: the
JSON readers and writers of the world let such halves through, although they are no characters.
Reading UTF-8 is strict about everything else: overlong forms, truncated forms and values past
`0x10ffff` are refused.
-/

namespace LoginGate.Bytes

/-- A character, or half of a surrogate pair on its own. -/
abbrev Symbol := Option Char

/-- The symbol with a code point, if there is one. -/
def symbol? (n : Nat) : Option Symbol :=
  if 0xd800 ≤ n ∧ n ≤ 0xdfff then some none
  else if n < 0x110000 then some (some (Char.ofNat n))
  else none

/-- The UTF-8 form of a text. -/
def utf8 (s : List Char) : List UInt8 := s.flatMap String.utf8EncodeChar

/-- The six bits of a continuation byte. -/
def continuation? (b : UInt8) : Option Nat :=
  if 0x80 ≤ b ∧ b < 0xc0 then some (b.toNat - 0x80) else none

/-- The symbols of a UTF-8 text; surrogate halves may be written as three bytes each. -/
def ofUtf8? : List UInt8 → Option (List Symbol)
  | [] => some []
  | a :: rest =>
    if a < 0x80 then (ofUtf8? rest).map (some (Char.ofNat a.toNat) :: ·)
    else if a < 0xc2 then none
    else if a < 0xe0 then
      match rest with
      | b :: rest => do
        let b ← continuation? b
        let tail ← ofUtf8? rest
        let s ← symbol? ((a.toNat - 0xc0) * 64 + b)
        some (s :: tail)
      | _ => none
    else if a < 0xf0 then
      match rest with
      | b :: c :: rest => do
        let b ← continuation? b
        let c ← continuation? c
        let n := ((a.toNat - 0xe0) * 64 + b) * 64 + c
        if n < 0x800 then none
        else
          let tail ← ofUtf8? rest
          let s ← symbol? n
          some (s :: tail)
      | _ => none
    else if a < 0xf5 then
      match rest with
      | b :: c :: d :: rest => do
        let b ← continuation? b
        let c ← continuation? c
        let d ← continuation? d
        let n := (((a.toNat - 0xf0) * 64 + b) * 64 + c) * 64 + d
        if n < 0x10000 then none
        else
          let tail ← ofUtf8? rest
          let s ← symbol? n
          some (s :: tail)
      | _ => none
    else none

/-- The UTF-8 form of a string. -/
def ofText (s : String) : List UInt8 := utf8 s.toList

end LoginGate.Bytes
