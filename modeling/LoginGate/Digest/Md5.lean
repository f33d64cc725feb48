import LoginGate.Digest.LittleEndian
import LoginGate.Digest.Sha1

/-!
# Digest/Md5 — the digest of 16 bytes

The message is padded to whole blocks of sixteen words; each block drives 64 steps over a state of
four words, sixteen steps of each of four kinds. A step takes one word of the block, and each kind
takes all of them, in an order of its own.
-/

namespace LoginGate.Md5

open Sha1 (rotate)

/-- The chaining state. -/
structure State where
  a : UInt32
  b : UInt32
  c : UInt32
  d : UInt32
  deriving DecidableEq

/-- The state before a message. -/
def initial : State := ⟨0x67452301, 0xefcdab89, 0x98badcfe, 0x10325476⟩

/-- How a step mixes three words. -/
inductive Kind where
  | choice
  | choiceByLast
  | parity
  | skew

/-- The mixture of three words. -/
@[inline] def Kind.mix (kind : Kind) (b c d : UInt32) : UInt32 :=
  match kind with
  | .choice => (b &&& c) ||| (~~~b &&& d)
  | .choiceByLast => (b &&& d) ||| (c &&& ~~~d)
  | .parity => b ^^^ c ^^^ d
  | .skew => c ^^^ (b ||| ~~~d)

/-- A step: which word of the block it takes, what it adds, and how far it rotates. -/
structure Step where
  kind : Kind
  index : Nat
  constant : UInt32
  shift : UInt32

/-- The sines of 1 to 64 radians, without their signs, in units of `2 ^ -32`. -/
def constants : List UInt32 :=
  [0xd76aa478, 0xe8c7b756, 0x242070db, 0xc1bdceee, 0xf57c0faf, 0x4787c62a, 0xa8304613, 0xfd469501,
   0x698098d8, 0x8b44f7af, 0xffff5bb1, 0x895cd7be, 0x6b901122, 0xfd987193, 0xa679438e, 0x49b40821,
   0xf61e2562, 0xc040b340, 0x265e5a51, 0xe9b6c7aa, 0xd62f105d, 0x02441453, 0xd8a1e681, 0xe7d3fbc8,
   0x21e1cde6, 0xc33707d6, 0xf4d50d87, 0x455a14ed, 0xa9e3e905, 0xfcefa3f8, 0x676f02d9, 0x8d2a4c8a,
   0xfffa3942, 0x8771f681, 0x6d9d6122, 0xfde5380c, 0xa4beea44, 0x4bdecfa9, 0xf6bb4b60, 0xbebfbc70,
   0x289b7ec6, 0xeaa127fa, 0xd4ef3085, 0x04881d05, 0xd9d4d039, 0xe6db99e5, 0x1fa27cf8, 0xc4ac5665,
   0xf4292244, 0x432aff97, 0xab9423a7, 0xfc93a039, 0x655b59c3, 0x8f0ccc92, 0xffeff47d, 0x85845dd1,
   0x6fa87e4f, 0xfe2ce6e0, 0xa3014314, 0x4e0811a1, 0xf7537e82, 0xbd3af235, 0x2ad7d2bb, 0xeb86d391]

/-- Sixteen steps of one kind: which words are taken, and the four rotations in turn. -/
def stepsOf (kind : Kind) (index : Nat → Nat) (shifts : List UInt32) (constants : List UInt32) :
    List Step :=
  (constants.zip (shifts ++ shifts ++ shifts ++ shifts)).mapIdx fun i (constant, shift) =>
    { kind, index := index i % 16, constant, shift }

/-- The 64 steps. -/
def schedule : List Step :=
  stepsOf .choice (fun i => i) [7, 12, 17, 22] (constants.take 16) ++
    stepsOf .choiceByLast (fun i => 5 * i + 1) [5, 9, 14, 20] ((constants.drop 16).take 16) ++
    stepsOf .parity (fun i => 3 * i + 5) [4, 11, 16, 23] ((constants.drop 32).take 16) ++
    stepsOf .skew (fun i => 7 * i) [6, 10, 15, 21] (constants.drop 48)

/-- **The steps that are left** of a block. -/
def steps (block : Array UInt32) : List Step → State → State
  | [], s => s
  | step :: rest, s =>
    let t := s.a + step.kind.mix s.b s.c s.d + step.constant + block[step.index]?.getD 0
    steps block rest ⟨s.d, s.b + rotate t step.shift, s.b, s.c⟩

/-- Word-wise sum of two states. -/
def State.add (s t : State) : State := ⟨s.a + t.a, s.b + t.b, s.c + t.c, s.d + t.d⟩

/-- The state after whole blocks of sixteen words; an incomplete last block is left out. -/
def absorb (s : State) : List UInt32 → State
  | w0 :: w1 :: w2 :: w3 :: w4 :: w5 :: w6 :: w7 :: w8 :: w9 :: w10 :: w11 :: w12 :: w13 :: w14 ::
      w15 :: rest =>
    let block := #[w0, w1, w2, w3, w4, w5, w6, w7, w8, w9, w10, w11, w12, w13, w14, w15]
    absorb (s.add (steps block schedule s)) rest
  | _ => s

/-- The bytes of a state. -/
def State.bytes (s : State) : List UInt8 :=
  LittleEndian.bytes32 s.a ++ LittleEndian.bytes32 s.b ++ LittleEndian.bytes32 s.c ++
    LittleEndian.bytes32 s.d

/-- The digest of a message whose first `before` bytes, whole blocks, gave the state `s`. -/
def finish (s : State) (before : Nat) (rest : List UInt8) : List UInt8 :=
  let words := LittleEndian.toWords32 (rest ++ LittleEndian.padding (before + rest.length))
  (absorb s words).bytes

end LoginGate.Md5
