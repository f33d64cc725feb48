import LoginGate.Json.Reader

/-!
# Json/Encoded — documents from bytes of an unknown encoding

JSON text may come as UTF-8, UTF-16 or UTF-32. A byte order mark decides; without one, the zero
bytes among the first four do, because JSON starts with an ASCII character.
-/

namespace LoginGate.Json

open LoginGate.Bytes

/-- The order of the bytes in a unit of two or four. -/
inductive ByteOrder where
  | big
  | little
  deriving DecidableEq

/-- The encodings that JSON text comes in. -/
inductive Encoding where
  | utf8
  | utf16 (order : ByteOrder)
  | utf32 (order : ByteOrder)
  deriving DecidableEq

/-- The encoding of some bytes, and the bytes after a byte order mark. -/
def detect : List UInt8 → Encoding × List UInt8
  | 0x00 :: 0x00 :: 0xfe :: 0xff :: rest => (.utf32 .big, rest)
  | 0xff :: 0xfe :: 0x00 :: 0x00 :: rest => (.utf32 .little, rest)
  | 0xfe :: 0xff :: rest => (.utf16 .big, rest)
  | 0xff :: 0xfe :: rest => (.utf16 .little, rest)
  | 0xef :: 0xbb :: 0xbf :: rest => (.utf8, rest)
  | s@(a :: b :: c :: d :: _) =>
    if a = 0 then (if b = 0 then .utf32 .big else .utf16 .big, s)
    else if b = 0 then (if c = 0 ∧ d = 0 then .utf32 .little else .utf16 .little, s)
    else (.utf8, s)
  | s@(a :: b :: []) => (if a = 0 then .utf16 .big else if b = 0 then .utf16 .little else .utf8, s)
  | s => (.utf8, s)

/-- The 16-bit units of some bytes, if they come in pairs. -/
def units16? (order : ByteOrder) : List UInt8 → Option (List Nat)
  | [] => some []
  | [_] => none
  | a :: b :: rest =>
    let unit := match order with
      | .big => a.toNat * 256 + b.toNat
      | .little => b.toNat * 256 + a.toNat
    (units16? order rest).map (unit :: ·)

/-- The symbols of UTF-16 units; a half without its partner is a symbol of its own. -/
def ofUnits16 : List Nat → List Symbol
  | [] => []
  | [u] => [if 0xd800 ≤ u ∧ u ≤ 0xdfff then none else some (Char.ofNat u)]
  | u :: v :: rest =>
    if 0xd800 ≤ u ∧ u ≤ 0xdbff ∧ 0xdc00 ≤ v ∧ v ≤ 0xdfff then
      some (Char.ofNat (0x10000 + (u - 0xd800) * 1024 + (v - 0xdc00))) :: ofUnits16 rest
    else if 0xd800 ≤ u ∧ u ≤ 0xdfff then none :: ofUnits16 (v :: rest)
    else some (Char.ofNat u) :: ofUnits16 (v :: rest)

/-- The symbols of UTF-32 bytes. -/
def ofUtf32? (order : ByteOrder) : List UInt8 → Option (List Symbol)
  | [] => some []
  | a :: b :: c :: d :: rest => do
    let n := match order with
      | .big => ((a.toNat * 256 + b.toNat) * 256 + c.toNat) * 256 + d.toNat
      | .little => ((d.toNat * 256 + c.toNat) * 256 + b.toNat) * 256 + a.toNat
    let s ← symbol? n
    let tail ← ofUtf32? order rest
    some (s :: tail)
  | _ => none

/-- The symbols of some bytes in the encoding that they show. -/
def decode? (bytes : List UInt8) : Option (List Symbol) :=
  match detect bytes with
  | (.utf8, rest) => ofUtf8? rest
  | (.utf16 order, rest) => (units16? order rest).map ofUnits16
  | (.utf32 order, rest) => ofUtf32? order rest

/-- **The document some bytes hold.** -/
def ofBytes (bytes : List UInt8) : Except Fault Json := do
  ofSymbols (← Fault.notText.unless (decode? bytes))

end LoginGate.Json
