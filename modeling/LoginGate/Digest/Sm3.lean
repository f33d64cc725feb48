import LoginGate.Digest.Sha1
import LoginGate.Digest.Sha256

/-!
# Digest/Sm3 — another digest of 32 bytes

The message is padded like that of `Sha256`; each block drives 64 rounds over a state of eight
words, sixteen of one kind and 48 of another. The window of the sixteen next schedule words slides
along with the rounds.
-/

namespace LoginGate.Sm3

open Sha1 (rotate)

/-- The state before a message. -/
def initial : Sha256.State :=
  ⟨0x7380166f, 0x4914b2b9, 0x172442d7, 0xda8a0600,
    0xa96f30bc, 0x163138aa, 0xe38dee4d, 0xb0fb0e4e⟩

/-- Rotation to the left by any number of places. -/
def turned (x : UInt32) (n : Nat) : UInt32 :=
  if n % 32 = 0 then x else rotate x (UInt32.ofNat (n % 32))

/-- The rounds: whether one is of the first kind, and the constant it adds. -/
def schedule : List (Bool × UInt32) :=
  (List.range 64).map fun j =>
    (j < 16, turned (if j < 16 then 0x79cc4519 else 0x7a879d8a) j)

/-- The word after sixteen others of the schedule. -/
@[inline] def nextWord (w0 w3 w7 w10 w13 : UInt32) : UInt32 :=
  let x := w0 ^^^ w7 ^^^ rotate w13 15
  x ^^^ rotate x 15 ^^^ rotate x 23 ^^^ rotate w3 7 ^^^ w10

/-- **The rounds that are left**; the words are the next sixteen of the schedule. -/
def rounds : List (Bool × UInt32) → (w0 w1 w2 w3 w4 w5 w6 w7 w8 w9 w10 w11 w12 w13 w14 w15
    a b c d e f g h : UInt32) → Sha256.State
  | [], _, _, _, _, _, _, _, _, _, _, _, _, _, _, _, _, a, b, c, d, e, f, g, h =>
    ⟨a, b, c, d, e, f, g, h⟩
  | (isFirst, k) :: ks, w0, w1, w2, w3, w4, w5, w6, w7, w8, w9, w10, w11, w12, w13, w14, w15,
      a, b, c, d, e, f, g, h =>
    let s1 := rotate (rotate a 12 + e + k) 7
    let s2 := s1 ^^^ rotate a 12
    let upper := if isFirst then a ^^^ b ^^^ c else (a &&& b) ||| (a &&& c) ||| (b &&& c)
    let lower := if isFirst then e ^^^ f ^^^ g else (e &&& f) ||| (~~~e &&& g)
    let t1 := upper + d + s2 + (w0 ^^^ w4)
    let t2 := lower + h + s1 + w0
    rounds ks w1 w2 w3 w4 w5 w6 w7 w8 w9 w10 w11 w12 w13 w14 w15 (nextWord w0 w3 w7 w10 w13)
      t1 a (rotate b 9) c (t2 ^^^ rotate t2 9 ^^^ rotate t2 17) e (rotate f 19) g

/-- Word-wise sum without carry of two states. -/
def xor (s t : Sha256.State) : Sha256.State :=
  ⟨s.a ^^^ t.a, s.b ^^^ t.b, s.c ^^^ t.c, s.d ^^^ t.d, s.e ^^^ t.e, s.f ^^^ t.f, s.g ^^^ t.g,
    s.h ^^^ t.h⟩

/-- The state after whole blocks of sixteen words; an incomplete last block is left out. -/
def absorb (s : Sha256.State) : List UInt32 → Sha256.State
  | w0 :: w1 :: w2 :: w3 :: w4 :: w5 :: w6 :: w7 :: w8 :: w9 :: w10 :: w11 :: w12 :: w13 :: w14 ::
      w15 :: rest =>
    let t := rounds schedule w0 w1 w2 w3 w4 w5 w6 w7 w8 w9 w10 w11 w12 w13 w14 w15
      s.a s.b s.c s.d s.e s.f s.g s.h
    absorb (xor s t) rest
  | _ => s

/-- The digest of a message whose first `before` bytes, whole blocks, gave the state `s`. -/
def finish (s : Sha256.State) (before : Nat) (rest : List UInt8) : List UInt8 :=
  (absorb s (Sha256.toWords (rest ++ Sha256.padding (before + rest.length)))).bytes

end LoginGate.Sm3
