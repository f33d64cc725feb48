/-!
# Digest/LittleEndian — words with the least significant byte first

Some digests read and write their words from the least significant byte on.
-/

namespace LoginGate.LittleEndian

/-- The words of 32 bits of some bytes; an incomplete last word is left out. -/
def toWords32 : List UInt8 → List UInt32
  | a :: b :: c :: d :: rest =>
    (a.toUInt32 ||| (b.toUInt32 <<< 8) ||| (c.toUInt32 <<< 16) ||| (d.toUInt32 <<< 24)) ::
      toWords32 rest
  | _ => []

/-- The bytes of a word of 32 bits. -/
def bytes32 (w : UInt32) : List UInt8 :=
  [w.toUInt8, (w >>> 8).toUInt8, (w >>> 16).toUInt8, (w >>> 24).toUInt8]

/-- The words of 64 bits of some bytes; an incomplete last word is left out. -/
def toWords64 : List UInt8 → List UInt64
  | a :: b :: c :: d :: e :: f :: g :: h :: rest =>
    (a.toUInt64 ||| (b.toUInt64 <<< 8) ||| (c.toUInt64 <<< 16) ||| (d.toUInt64 <<< 24) |||
      (e.toUInt64 <<< 32) ||| (f.toUInt64 <<< 40) ||| (g.toUInt64 <<< 48) |||
      (h.toUInt64 <<< 56)) :: toWords64 rest
  | _ => []

/-- The bytes of a word of 64 bits. -/
def bytes64 (w : UInt64) : List UInt8 :=
  [w.toUInt8, (w >>> 8).toUInt8, (w >>> 16).toUInt8, (w >>> 24).toUInt8, (w >>> 32).toUInt8,
    (w >>> 40).toUInt8, (w >>> 48).toUInt8, (w >>> 56).toUInt8]

/-- What follows a message of a given length: one set bit, zeros, and the length in bits, up to the
end of a block of 64 bytes. -/
def padding (size : Nat) : List UInt8 :=
  (0x80 : UInt8) :: List.replicate ((120 - (size + 1) % 64) % 64) 0 ++
    bytes64 (UInt64.ofNat (8 * size))

end LoginGate.LittleEndian
