import LoginGate.Digest.LittleEndian
import LoginGate.Digest.Sha256

/-!
# Digest/Blake2s — a digest of 32 bytes for small words

Each block of sixteen words is mixed in 10 rounds into a square of words made of the chaining state
and of fixed ones, the number of bytes taken in so far among them. The last block is marked as such,
so a block can be taken in only when it is known whether more is to come.
-/

namespace LoginGate.Blake2s

open Sha256 (State rotate)

/-- The state before a message: that of `Sha256`, but for the parameters in its first word. -/
def initial : State := { Sha256.initial with a := Sha256.initial.a ^^^ 0x01010020 }

/-- The square of words. -/
structure Square where
  (v0 v1 v2 v3 : UInt32)
  (v4 v5 v6 v7 : UInt32)
  (v8 v9 v10 v11 : UInt32)
  (v12 v13 v14 v15 : UInt32)

/-- Four words mixed with two words of the block. -/
@[inline] def mix (a b c d x y : UInt32) : UInt32 × UInt32 × UInt32 × UInt32 :=
  let a := a + b + x
  let d := rotate (d ^^^ a) 16
  let c := c + d
  let b := rotate (b ^^^ c) 12
  let a := a + b + y
  let d := rotate (d ^^^ a) 8
  let c := c + d
  let b := rotate (b ^^^ c) 7
  (a, b, c, d)

/-- A round: the columns are mixed, and then the diagonals, with the words of the block in some
order. -/
def round (block : Array UInt32) (order : Array Nat) (s : Square) : Square :=
  let m (i : Nat) : UInt32 := block[order[i]?.getD 0]?.getD 0
  let (v0, v4, v8, v12) := mix s.v0 s.v4 s.v8 s.v12 (m 0) (m 1)
  let (v1, v5, v9, v13) := mix s.v1 s.v5 s.v9 s.v13 (m 2) (m 3)
  let (v2, v6, v10, v14) := mix s.v2 s.v6 s.v10 s.v14 (m 4) (m 5)
  let (v3, v7, v11, v15) := mix s.v3 s.v7 s.v11 s.v15 (m 6) (m 7)
  let (v0, v5, v10, v15) := mix v0 v5 v10 v15 (m 8) (m 9)
  let (v1, v6, v11, v12) := mix v1 v6 v11 v12 (m 10) (m 11)
  let (v2, v7, v8, v13) := mix v2 v7 v8 v13 (m 12) (m 13)
  let (v3, v4, v9, v14) := mix v3 v4 v9 v14 (m 14) (m 15)
  ⟨v0, v1, v2, v3, v4, v5, v6, v7, v8, v9, v10, v11, v12, v13, v14, v15⟩

/-- The orders of the words in ten rounds. -/
def orders : List (Array Nat) :=
  [#[0, 1, 2, 3, 4, 5, 6, 7, 8, 9, 10, 11, 12, 13, 14, 15],
   #[14, 10, 4, 8, 9, 15, 13, 6, 1, 12, 0, 2, 11, 7, 5, 3],
   #[11, 8, 12, 0, 5, 2, 15, 13, 10, 14, 3, 6, 7, 1, 9, 4],
   #[7, 9, 3, 1, 13, 12, 11, 14, 2, 6, 5, 10, 4, 0, 15, 8],
   #[9, 0, 5, 7, 2, 4, 10, 15, 14, 1, 11, 12, 6, 8, 3, 13],
   #[2, 12, 6, 10, 0, 11, 8, 3, 4, 13, 7, 5, 15, 14, 1, 9],
   #[12, 5, 1, 15, 14, 13, 4, 10, 0, 7, 6, 3, 9, 2, 8, 11],
   #[13, 11, 7, 14, 12, 1, 3, 9, 5, 0, 15, 4, 8, 6, 2, 10],
   #[6, 15, 14, 9, 11, 3, 0, 8, 12, 2, 13, 7, 1, 4, 10, 5],
   #[10, 2, 8, 4, 7, 6, 1, 5, 15, 11, 9, 14, 3, 12, 13, 0]]

/-- The orders of the words in all rounds. -/
def schedule : List (Array Nat) := orders

/-- The state after a block, when `count` bytes have been taken in with it. -/
def compress (s : State) (block : Array UInt32) (count : Nat) (isLast : Bool) : State :=
  let i := Sha256.initial
  let square : Square :=
    ⟨s.a, s.b, s.c, s.d, s.e, s.f, s.g, s.h, i.a, i.b, i.c, i.d,
      i.e ^^^ UInt32.ofNat count, i.f ^^^ UInt32.ofNat (count >>> 32),
      if isLast then ~~~i.g else i.g, i.h⟩
  let t := schedule.foldl (fun t order => round block order t) square
  ⟨s.a ^^^ t.v0 ^^^ t.v8, s.b ^^^ t.v1 ^^^ t.v9, s.c ^^^ t.v2 ^^^ t.v10, s.d ^^^ t.v3 ^^^ t.v11,
    s.e ^^^ t.v4 ^^^ t.v12, s.f ^^^ t.v5 ^^^ t.v13, s.g ^^^ t.v6 ^^^ t.v14, s.h ^^^ t.v7 ^^^ t.v15⟩

/-- The state after a message, of which `count` bytes have been taken in; `blocks` more are not the
last one. -/
def absorb : (blocks : Nat) → State → (count : Nat) → List UInt8 → State
  | 0, s, count, bytes =>
    let full := bytes ++ List.replicate (64 - bytes.length) 0
    compress s (LittleEndian.toWords32 full).toArray (count + bytes.length) true
  | blocks + 1, s, count, bytes =>
    let block := (LittleEndian.toWords32 (bytes.take 64)).toArray
    absorb blocks (compress s block (count + 64) false) (count + 64) (bytes.drop 64)

/-- The bytes of a state. -/
def bytesOf (s : State) : List UInt8 :=
  LittleEndian.bytes32 s.a ++ LittleEndian.bytes32 s.b ++ LittleEndian.bytes32 s.c ++
    LittleEndian.bytes32 s.d ++ LittleEndian.bytes32 s.e ++ LittleEndian.bytes32 s.f ++
    LittleEndian.bytes32 s.g ++ LittleEndian.bytes32 s.h

/-- **The digest of a message.** -/
def digest (message : List UInt8) : List UInt8 :=
  bytesOf (absorb ((message.length - 1) / 64) initial 0 message)

end LoginGate.Blake2s
