import LoginGate.Digest.LittleEndian
import LoginGate.Digest.Sha1

/-!
# Digest/Ripemd160 — another digest of 20 bytes

The message is padded to whole blocks of sixteen words; each block drives two lines of eighty steps
over copies of a state of five words, and the two outcomes are added crosswise. The kinds of steps
come in opposite orders on the two lines.
-/

namespace LoginGate.Ripemd160

open Sha1 (rotate)

/-- How a step mixes three words. -/
inductive Kind where
  | parity
  | choice
  | skew
  | choiceByLast
  | twistedSkew

/-- The mixture of three words. -/
@[inline] def Kind.mix (kind : Kind) (b c d : UInt32) : UInt32 :=
  match kind with
  | .parity => b ^^^ c ^^^ d
  | .choice => (b &&& c) ||| (~~~b &&& d)
  | .skew => (b ||| ~~~c) ^^^ d
  | .choiceByLast => (b &&& d) ||| (c &&& ~~~d)
  | .twistedSkew => b ^^^ (c ||| ~~~d)

/-- A step: which word of the block it takes, what it adds, and how far it rotates. -/
structure Step where
  kind : Kind
  constant : UInt32
  index : Nat
  shift : UInt32

/-- Steps of one kind. -/
def stepsOf (kind : Kind) (constant : UInt32) (indices : List Nat) (shifts : List UInt32) :
    List Step :=
  indices.zipWith (fun index shift => { kind, constant, index, shift }) shifts

/-- The steps of the first line. -/
def firstLine : List Step :=
  stepsOf .parity 0
      [0, 1, 2, 3, 4, 5, 6, 7, 8, 9, 10, 11, 12, 13, 14, 15]
      [11, 14, 15, 12, 5, 8, 7, 9, 11, 13, 14, 15, 6, 7, 9, 8] ++
    stepsOf .choice 0x5a827999
      [7, 4, 13, 1, 10, 6, 15, 3, 12, 0, 9, 5, 2, 14, 11, 8]
      [7, 6, 8, 13, 11, 9, 7, 15, 7, 12, 15, 9, 11, 7, 13, 12] ++
    stepsOf .skew 0x6ed9eba1
      [3, 10, 14, 4, 9, 15, 8, 1, 2, 7, 0, 6, 13, 11, 5, 12]
      [11, 13, 6, 7, 14, 9, 13, 15, 14, 8, 13, 6, 5, 12, 7, 5] ++
    stepsOf .choiceByLast 0x8f1bbcdc
      [1, 9, 11, 10, 0, 8, 12, 4, 13, 3, 7, 15, 14, 5, 6, 2]
      [11, 12, 14, 15, 14, 15, 9, 8, 9, 14, 5, 6, 8, 6, 5, 12] ++
    stepsOf .twistedSkew 0xa953fd4e
      [4, 0, 5, 9, 7, 12, 2, 10, 14, 1, 3, 8, 11, 6, 15, 13]
      [9, 15, 5, 11, 6, 8, 13, 12, 5, 12, 13, 14, 11, 8, 5, 6]

/-- The steps of the second line. -/
def secondLine : List Step :=
  stepsOf .twistedSkew 0x50a28be6
      [5, 14, 7, 0, 9, 2, 11, 4, 13, 6, 15, 8, 1, 10, 3, 12]
      [8, 9, 9, 11, 13, 15, 15, 5, 7, 7, 8, 11, 14, 14, 12, 6] ++
    stepsOf .choiceByLast 0x5c4dd124
      [6, 11, 3, 7, 0, 13, 5, 10, 14, 15, 8, 12, 4, 9, 1, 2]
      [9, 13, 15, 7, 12, 8, 9, 11, 7, 7, 12, 7, 6, 15, 13, 11] ++
    stepsOf .skew 0x6d703ef3
      [15, 5, 1, 3, 7, 14, 6, 9, 11, 8, 12, 2, 10, 0, 4, 13]
      [9, 7, 15, 11, 8, 6, 6, 14, 12, 13, 5, 14, 13, 13, 7, 5] ++
    stepsOf .choice 0x7a6d76e9
      [8, 6, 4, 1, 3, 11, 15, 0, 5, 12, 2, 13, 9, 7, 10, 14]
      [15, 5, 8, 11, 14, 14, 6, 14, 6, 9, 12, 9, 12, 5, 15, 8] ++
    stepsOf .parity 0
      [12, 15, 10, 4, 1, 5, 8, 7, 6, 2, 13, 14, 0, 3, 9, 11]
      [8, 5, 12, 9, 12, 5, 14, 6, 8, 13, 6, 5, 15, 13, 11, 11]

/-- **The steps that are left** of a line. -/
def steps (block : Array UInt32) : List Step → Sha1.State → Sha1.State
  | [], s => s
  | step :: rest, s =>
    let t := s.a + step.kind.mix s.b s.c s.d + block[step.index]?.getD 0 + step.constant
    steps block rest ⟨s.e, rotate t step.shift + s.e, s.b, rotate s.c 10, s.d⟩

/-- A state joined with the outcomes of both lines. -/
def joined (s t u : Sha1.State) : Sha1.State :=
  ⟨s.b + t.c + u.d, s.c + t.d + u.e, s.d + t.e + u.a, s.e + t.a + u.b, s.a + t.b + u.c⟩

/-- The state after whole blocks of sixteen words; an incomplete last block is left out. -/
def absorb (s : Sha1.State) : List UInt32 → Sha1.State
  | w0 :: w1 :: w2 :: w3 :: w4 :: w5 :: w6 :: w7 :: w8 :: w9 :: w10 :: w11 :: w12 :: w13 :: w14 ::
      w15 :: rest =>
    let block := #[w0, w1, w2, w3, w4, w5, w6, w7, w8, w9, w10, w11, w12, w13, w14, w15]
    absorb (joined s (steps block firstLine s) (steps block secondLine s)) rest
  | _ => s

/-- The digest of a message whose first `before` bytes, whole blocks, gave the state `s`. -/
def finish (s : Sha1.State) (before : Nat) (rest : List UInt8) : List UInt8 :=
  let t := absorb s (LittleEndian.toWords32 (rest ++ LittleEndian.padding (before + rest.length)))
  LittleEndian.bytes32 t.a ++ LittleEndian.bytes32 t.b ++ LittleEndian.bytes32 t.c ++
    LittleEndian.bytes32 t.d ++ LittleEndian.bytes32 t.e

end LoginGate.Ripemd160
