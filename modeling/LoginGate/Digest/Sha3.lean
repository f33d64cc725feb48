import LoginGate.Digest.LittleEndian

/-!
# Digest/Sha3 — the digests of the sponge

A state of 25 lanes of 64 bits takes in the message block by block: a block is added without carry
to the first lanes, and the state is permuted in 24 rounds. The digest is read off the first lanes.
The longer the digest, the shorter a block.
-/

namespace LoginGate.Sha3

/-- The four digests, by their size. -/
inductive Variant where
  | bytes28
  | bytes32
  | bytes48
  | bytes64
  deriving DecidableEq, Repr

/-- The bytes of a digest. -/
def Variant.size : Variant → Nat
  | .bytes28 => 28
  | .bytes32 => 32
  | .bytes48 => 48
  | .bytes64 => 64

/-- The bytes of a block. -/
def Variant.blockSize (v : Variant) : Nat := 200 - 2 * v.size

/-- The state. -/
structure State where
  (s0 s1 s2 s3 s4 : UInt64)
  (s5 s6 s7 s8 s9 : UInt64)
  (s10 s11 s12 s13 s14 : UInt64)
  (s15 s16 s17 s18 s19 : UInt64)
  (s20 s21 s22 s23 s24 : UInt64)
  deriving DecidableEq

/-- The state before a message. -/
def initial : State :=
  ⟨0, 0, 0, 0, 0, 0, 0, 0, 0, 0, 0, 0, 0, 0, 0, 0, 0, 0, 0, 0, 0, 0, 0, 0, 0⟩

/-- Rotation to the left by `n` places, `0 < n < 64`. -/
@[inline] def rotate (x n : UInt64) : UInt64 := (x <<< n) ||| (x >>> (64 - n))

/-- A round: the columns are mixed, the lanes rotated and moved, the rows mixed, and a constant is
added. -/
def round (constant : UInt64) (s : State) : State :=
  let c0 := s.s0 ^^^ s.s5 ^^^ s.s10 ^^^ s.s15 ^^^ s.s20
  let c1 := s.s1 ^^^ s.s6 ^^^ s.s11 ^^^ s.s16 ^^^ s.s21
  let c2 := s.s2 ^^^ s.s7 ^^^ s.s12 ^^^ s.s17 ^^^ s.s22
  let c3 := s.s3 ^^^ s.s8 ^^^ s.s13 ^^^ s.s18 ^^^ s.s23
  let c4 := s.s4 ^^^ s.s9 ^^^ s.s14 ^^^ s.s19 ^^^ s.s24
  let d0 := c4 ^^^ rotate c1 1
  let d1 := c0 ^^^ rotate c2 1
  let d2 := c1 ^^^ rotate c3 1
  let d3 := c2 ^^^ rotate c4 1
  let d4 := c3 ^^^ rotate c0 1
  let b0 := s.s0 ^^^ d0
  let b1 := rotate (s.s6 ^^^ d1) 44
  let b2 := rotate (s.s12 ^^^ d2) 43
  let b3 := rotate (s.s18 ^^^ d3) 21
  let b4 := rotate (s.s24 ^^^ d4) 14
  let b5 := rotate (s.s3 ^^^ d3) 28
  let b6 := rotate (s.s9 ^^^ d4) 20
  let b7 := rotate (s.s10 ^^^ d0) 3
  let b8 := rotate (s.s16 ^^^ d1) 45
  let b9 := rotate (s.s22 ^^^ d2) 61
  let b10 := rotate (s.s1 ^^^ d1) 1
  let b11 := rotate (s.s7 ^^^ d2) 6
  let b12 := rotate (s.s13 ^^^ d3) 25
  let b13 := rotate (s.s19 ^^^ d4) 8
  let b14 := rotate (s.s20 ^^^ d0) 18
  let b15 := rotate (s.s4 ^^^ d4) 27
  let b16 := rotate (s.s5 ^^^ d0) 36
  let b17 := rotate (s.s11 ^^^ d1) 10
  let b18 := rotate (s.s17 ^^^ d2) 15
  let b19 := rotate (s.s23 ^^^ d3) 56
  let b20 := rotate (s.s2 ^^^ d2) 62
  let b21 := rotate (s.s8 ^^^ d3) 55
  let b22 := rotate (s.s14 ^^^ d4) 39
  let b23 := rotate (s.s15 ^^^ d0) 41
  let b24 := rotate (s.s21 ^^^ d1) 2
  ⟨b0 ^^^ (~~~b1 &&& b2) ^^^ constant, b1 ^^^ (~~~b2 &&& b3), b2 ^^^ (~~~b3 &&& b4),
    b3 ^^^ (~~~b4 &&& b0), b4 ^^^ (~~~b0 &&& b1), b5 ^^^ (~~~b6 &&& b7), b6 ^^^ (~~~b7 &&& b8),
    b7 ^^^ (~~~b8 &&& b9), b8 ^^^ (~~~b9 &&& b5), b9 ^^^ (~~~b5 &&& b6), b10 ^^^ (~~~b11 &&& b12),
    b11 ^^^ (~~~b12 &&& b13), b12 ^^^ (~~~b13 &&& b14), b13 ^^^ (~~~b14 &&& b10),
    b14 ^^^ (~~~b10 &&& b11), b15 ^^^ (~~~b16 &&& b17), b16 ^^^ (~~~b17 &&& b18),
    b17 ^^^ (~~~b18 &&& b19), b18 ^^^ (~~~b19 &&& b15), b19 ^^^ (~~~b15 &&& b16),
    b20 ^^^ (~~~b21 &&& b22), b21 ^^^ (~~~b22 &&& b23), b22 ^^^ (~~~b23 &&& b24),
    b23 ^^^ (~~~b24 &&& b20), b24 ^^^ (~~~b20 &&& b21)⟩

/-- The constants of the rounds. -/
def constants : List UInt64 :=
  [0x0000000000000001, 0x0000000000008082, 0x800000000000808a, 0x8000000080008000,
   0x000000000000808b, 0x0000000080000001, 0x8000000080008081, 0x8000000000008009,
   0x000000000000008a, 0x0000000000000088, 0x0000000080008009, 0x000000008000000a,
   0x000000008000808b, 0x800000000000008b, 0x8000000000008089, 0x8000000000008003,
   0x8000000000008002, 0x8000000000000080, 0x000000000000800a, 0x800000008000000a,
   0x8000000080008081, 0x8000000000008080, 0x0000000080000001, 0x8000000080008008]

/-- The permutation of the state. -/
def permuted (s : State) : State := constants.foldl (fun s constant => round constant s) s

/-- A state with some words added without carry. -/
def State.xor (s : State) (words : List UInt64) : State :=
  let block := words.toArray
  let w (i : Nat) : UInt64 := block[i]?.getD 0
  ⟨s.s0 ^^^ w 0, s.s1 ^^^ w 1, s.s2 ^^^ w 2, s.s3 ^^^ w 3, s.s4 ^^^ w 4, s.s5 ^^^ w 5, s.s6 ^^^ w 6,
    s.s7 ^^^ w 7, s.s8 ^^^ w 8, s.s9 ^^^ w 9, s.s10 ^^^ w 10, s.s11 ^^^ w 11, s.s12 ^^^ w 12,
    s.s13 ^^^ w 13, s.s14 ^^^ w 14, s.s15 ^^^ w 15, s.s16 ^^^ w 16, s.s17 ^^^ w 17, s.s18 ^^^ w 18,
    s.s19 ^^^ w 19, s.s20 ^^^ w 20, s.s21 ^^^ w 21, s.s22 ^^^ w 22, s.s23 ^^^ w 23, s.s24 ^^^ w 24⟩

/-- The state after some blocks. -/
def absorb (v : Variant) : (count : Nat) → State → List UInt8 → State
  | 0, s, _ => s
  | count + 1, s, bytes =>
    let block := LittleEndian.toWords64 (bytes.take v.blockSize)
    absorb v count (permuted (s.xor block)) (bytes.drop v.blockSize)

/-- What ends a message of a given length, up to the end of a block. -/
def padding (v : Variant) (size : Nat) : List UInt8 :=
  match v.blockSize - size % v.blockSize with
  | 0 | 1 => [0x86]
  | n + 2 => 0x06 :: List.replicate n 0 ++ [0x80]

/-- The first eight lanes of a state in bytes. -/
def State.bytes (s : State) : List UInt8 :=
  LittleEndian.bytes64 s.s0 ++ LittleEndian.bytes64 s.s1 ++ LittleEndian.bytes64 s.s2 ++
    LittleEndian.bytes64 s.s3 ++ LittleEndian.bytes64 s.s4 ++ LittleEndian.bytes64 s.s5 ++
    LittleEndian.bytes64 s.s6 ++ LittleEndian.bytes64 s.s7

/-- The state after whole blocks. -/
def absorbAll (v : Variant) (s : State) (bytes : List UInt8) : State :=
  absorb v (bytes.length / v.blockSize) s bytes

/-- **The digest of a message** whose first bytes, whole blocks, gave the state `s`. -/
def finish (v : Variant) (s : State) (rest : List UInt8) : List UInt8 :=
  (absorbAll v s (rest ++ padding v rest.length)).bytes.take v.size

end LoginGate.Sha3
