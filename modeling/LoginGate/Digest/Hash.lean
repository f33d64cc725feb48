import LoginGate.Digest.Blake2b
import LoginGate.Digest.Blake2s
import LoginGate.Digest.Md5
import LoginGate.Digest.Ripemd160
import LoginGate.Digest.Sha1
import LoginGate.Digest.Sha256
import LoginGate.Digest.Sha3
import LoginGate.Digest.Sha512
import LoginGate.Digest.Sm3

/-!
# Digest/Hash — the digests under one roof

A digest under way is a `Midstate`: which digest it is, and the chaining state after some whole
blocks. `Hash.digest` is the digest of a whole message.
-/

namespace LoginGate

/-- A digest function, by its name. -/
inductive Hash where
  | md5
  /-- The digest `md5` of a message, followed by `sha1` of it. -/
  | md5sha1
  | sha1
  | sha224
  | sha256
  | sha384
  | sha512
  /-- The variant of `sha512` with 28 bytes. -/
  | sha512of28
  /-- The variant of `sha512` with 32 bytes. -/
  | sha512of32
  | sha3 (variant : Sha3.Variant)
  | ripemd160
  | sm3
  | blake2b
  | blake2s
  deriving DecidableEq, Repr

/-- A digest function and its chaining state after some whole blocks. Where a block can be taken in
only when it is known whether more is to come, the bytes are held instead. -/
inductive Midstate where
  | md5 (s : Md5.State)
  | md5sha1 (s : Md5.State) (t : Sha1.State)
  | sha1 (s : Sha1.State)
  | sha224 (s : Sha256.State)
  | sha256 (s : Sha256.State)
  | sha384 (s : Sha512.State)
  | sha512 (s : Sha512.State)
  | sha512of28 (s : Sha512.State)
  | sha512of32 (s : Sha512.State)
  | sha3 (variant : Sha3.Variant) (s : Sha3.State)
  | ripemd160 (s : Sha1.State)
  | sm3 (s : Sha256.State)
  | blake2b (held : List UInt8)
  | blake2s (held : List UInt8)

namespace Hash

/-- The bytes of a block. -/
def blockSize : Hash → Nat
  | .md5 | .md5sha1 | .sha1 | .sha224 | .sha256 | .ripemd160 | .sm3 | .blake2s => 64
  | .sha384 | .sha512 | .sha512of28 | .sha512of32 | .blake2b => 128
  | .sha3 v => v.blockSize

/-- The bytes of a digest. -/
def size : Hash → Nat
  | .md5 => 16
  | .sha1 | .ripemd160 => 20
  | .sha224 | .sha512of28 => 28
  | .sha256 | .sha512of32 | .sm3 | .blake2s => 32
  | .md5sha1 => 36
  | .sha384 => 48
  | .sha512 | .blake2b => 64
  | .sha3 v => v.size

/-- The state after some whole blocks. -/
def start (hash : Hash) (blocks : List UInt8) : Midstate :=
  match hash with
  | .md5 => .md5 (Md5.absorb Md5.initial (LittleEndian.toWords32 blocks))
  | .md5sha1 =>
    .md5sha1 (Md5.absorb Md5.initial (LittleEndian.toWords32 blocks))
      (Sha1.absorb Sha1.initial (Sha256.toWords blocks))
  | .sha1 => .sha1 (Sha1.absorb Sha1.initial (Sha256.toWords blocks))
  | .sha224 => .sha224 (Sha256.absorb Sha256.initial224 (Sha256.toWords blocks))
  | .sha256 => .sha256 (Sha256.absorb Sha256.initial (Sha256.toWords blocks))
  | .sha384 => .sha384 (Sha512.absorb Sha512.initial384 (Sha512.toWords blocks))
  | .sha512 => .sha512 (Sha512.absorb Sha512.initial (Sha512.toWords blocks))
  | .sha512of28 => .sha512of28 (Sha512.absorb Sha512.initial224 (Sha512.toWords blocks))
  | .sha512of32 => .sha512of32 (Sha512.absorb Sha512.initial256 (Sha512.toWords blocks))
  | .sha3 v => .sha3 v (Sha3.absorbAll v Sha3.initial blocks)
  | .ripemd160 => .ripemd160 (Ripemd160.absorb Sha1.initial (LittleEndian.toWords32 blocks))
  | .sm3 => .sm3 (Sm3.absorb Sm3.initial (Sha256.toWords blocks))
  | .blake2b => .blake2b blocks
  | .blake2s => .blake2s blocks

end Hash

/-- The digest of a message that started with `before` bytes, whole blocks, and ends with `rest`. -/
def Midstate.finish (m : Midstate) (before : Nat) (rest : List UInt8) : List UInt8 :=
  match m with
  | .md5 s => Md5.finish s before rest
  | .md5sha1 s t => Md5.finish s before rest ++ Sha1.finish t before rest
  | .sha1 s => Sha1.finish s before rest
  | .sha224 s => (Sha256.finish s before rest).bytes.take 28
  | .sha256 s => (Sha256.finish s before rest).bytes
  | .sha384 s => (Sha512.finish s before rest).bytes.take 48
  | .sha512 s => (Sha512.finish s before rest).bytes
  | .sha512of28 s => (Sha512.finish s before rest).bytes.take 28
  | .sha512of32 s => (Sha512.finish s before rest).bytes.take 32
  | .sha3 v s => Sha3.finish v s rest
  | .ripemd160 s => Ripemd160.finish s before rest
  | .sm3 s => Sm3.finish s before rest
  | .blake2b held => Blake2b.digest (held ++ rest)
  | .blake2s held => Blake2s.digest (held ++ rest)

/-- **The digest of a message.** -/
def Hash.digest (hash : Hash) (message : List UInt8) : List UInt8 :=
  (hash.start []).finish 0 message

/-- Every digest has the size of its function. -/
@[simp] theorem Hash.length_digest (hash : Hash) (message : List UInt8) :
    (hash.digest message).length = hash.size := by
  cases hash with
  | sha3 v => cases v <;> rfl
  | _ => rfl

end LoginGate
