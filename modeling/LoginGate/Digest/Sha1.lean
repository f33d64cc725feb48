import LoginGate.Digest.Sha256

/-!
# Digest/Sha1 — the digest of 20 bytes

The message is padded to whole blocks of sixteen words; each block drives eighty rounds over a state
of five words, twenty rounds of each of four kinds.
-/

namespace LoginGate.Sha1

/-- The chaining state. -/
structure State where
  a : UInt32
  b : UInt32
  c : UInt32
  d : UInt32
  e : UInt32
  deriving DecidableEq

/-- The state before a message. -/
def initial : State := ⟨0x67452301, 0xefcdab89, 0x98badcfe, 0x10325476, 0xc3d2e1f0⟩

/-- How a round mixes three words, and which constant it adds. -/
inductive Kind where
  | choice
  | parity
  | majority
  | parityAgain

/-- The mixture of three words and the constant. -/
@[inline] def Kind.mix (kind : Kind) (b c d : UInt32) : UInt32 :=
  match kind with
  | .choice => ((b &&& c) ||| (~~~b &&& d)) + 0x5a827999
  | .parity => (b ^^^ c ^^^ d) + 0x6ed9eba1
  | .majority => ((b &&& c) ||| (b &&& d) ||| (c &&& d)) + 0x8f1bbcdc
  | .parityAgain => (b ^^^ c ^^^ d) + 0xca62c1d6

/-- The kinds of the eighty rounds. -/
def schedule : List Kind :=
  List.replicate 20 .choice ++ List.replicate 20 .parity ++ List.replicate 20 .majority ++
    List.replicate 20 .parityAgain

/-- Rotation to the left by `n` places, `0 < n < 32`. -/
@[inline] def rotate (x n : UInt32) : UInt32 := (x <<< n) ||| (x >>> (32 - n))

/-- **The rounds that are left**; the words are the next sixteen of the message schedule. -/
def rounds : List Kind → (w0 w1 w2 w3 w4 w5 w6 w7 w8 w9 w10 w11 w12 w13 w14 w15
    a b c d e : UInt32) → State
  | [], _, _, _, _, _, _, _, _, _, _, _, _, _, _, _, _, a, b, c, d, e => ⟨a, b, c, d, e⟩
  | kind :: kinds, w0, w1, w2, w3, w4, w5, w6, w7, w8, w9, w10, w11, w12, w13, w14, w15,
      a, b, c, d, e =>
    let t := rotate a 5 + kind.mix b c d + e + w0
    rounds kinds w1 w2 w3 w4 w5 w6 w7 w8 w9 w10 w11 w12 w13 w14 w15
      (rotate (w13 ^^^ w8 ^^^ w2 ^^^ w0) 1) t a (rotate b 30) c d

/-- Word-wise sum of two states. -/
def State.add (s t : State) : State := ⟨s.a + t.a, s.b + t.b, s.c + t.c, s.d + t.d, s.e + t.e⟩

/-- The state after whole blocks of sixteen words; an incomplete last block is left out. -/
def absorb (s : State) : List UInt32 → State
  | w0 :: w1 :: w2 :: w3 :: w4 :: w5 :: w6 :: w7 :: w8 :: w9 :: w10 :: w11 :: w12 :: w13 :: w14 ::
      w15 :: rest =>
    let t := rounds schedule w0 w1 w2 w3 w4 w5 w6 w7 w8 w9 w10 w11 w12 w13 w14 w15
      s.a s.b s.c s.d s.e
    absorb (s.add t) rest
  | _ => s

/-- The digest of a message whose first `before` bytes, whole blocks, gave the state `s`. -/
def finish (s : State) (before : Nat) (rest : List UInt8) : List UInt8 :=
  let t := absorb s (Sha256.toWords (rest ++ Sha256.padding (before + rest.length)))
  Sha256.wordBytes t.a ++ Sha256.wordBytes t.b ++ Sha256.wordBytes t.c ++ Sha256.wordBytes t.d ++
    Sha256.wordBytes t.e

end LoginGate.Sha1
