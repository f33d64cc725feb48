import LoginGate.Digest.Hash

/-!
# Digest/Hmac — keyed digests and keys from passwords

A key is brought to the size of a block and prepared once: both inner and outer digest start with a
block that depends on the key alone. `derive` stretches a password by iterating the keyed digest.
-/

namespace LoginGate

/-- A key prepared for one digest function. -/
structure HmacKey where
  blockSize : Nat
  inner : Midstate
  outer : Midstate

namespace HmacKey

/-- A key of the size of a block: longer ones are digested first, shorter ones filled with zeros. -/
def block (hash : Hash) (key : List UInt8) : List UInt8 :=
  let short := if hash.blockSize < key.length then hash.digest key else key
  short ++ List.replicate (hash.blockSize - short.length) 0

/-- Prepare a key. -/
def ofBytes (hash : Hash) (key : List UInt8) : HmacKey :=
  let k := block hash key
  { blockSize := hash.blockSize
    inner := hash.start (k.map (· ^^^ 0x36))
    outer := hash.start (k.map (· ^^^ 0x5c)) }

/-- The keyed digest of a message. -/
def sign (key : HmacKey) (message : List UInt8) : List UInt8 :=
  key.outer.finish key.blockSize (key.inner.finish key.blockSize message)

end HmacKey

/-- **The keyed digest of a message.** -/
def hmac (hash : Hash) (key message : List UInt8) : List UInt8 :=
  (HmacKey.ofBytes hash key).sign message

theorem Midstate.length_finish_start (hash : Hash) (blocks : List UInt8) (before : Nat)
    (rest : List UInt8) : ((hash.start blocks).finish before rest).length = hash.size := by
  cases hash with
  | sha3 v => cases v <;> rfl
  | _ => rfl

@[simp] theorem length_hmac (hash : Hash) (key message : List UInt8) :
    (hmac hash key message).length = hash.size :=
  Midstate.length_finish_start _ _ _ _

namespace Pbkdf2

/-- The sum, bit by bit without carry, of `count` further links of the chain. -/
def links (key : HmacKey) : (count : Nat) → (link sum : List UInt8) → List UInt8
  | 0, _, sum => sum
  | count + 1, link, sum =>
    let next := key.sign link
    links key count next (List.zipWith (· ^^^ ·) sum next)

/-- The bytes of a number below `2 ^ 32`. -/
def counterBytes (n : Nat) : List UInt8 := Sha256.wordBytes (UInt32.ofNat n)

/-- The block of output with a number, counted from one. -/
def outputBlock (key : HmacKey) (salt : List UInt8) (iterations number : Nat) : List UInt8 :=
  let first := key.sign (salt ++ counterBytes number)
  links key (iterations - 1) first first

/-- `count` blocks of output from a number on. -/
def outputBlocks (key : HmacKey) (salt : List UInt8) (iterations : Nat) :
    (count number : Nat) → List UInt8
  | 0, _ => []
  | count + 1, number =>
    outputBlock key salt iterations number ++ outputBlocks key salt iterations count (number + 1)

/-- **`size` bytes of key from a password and a salt.** -/
def derive (hash : Hash) (password salt : List UInt8) (iterations size : Nat) : List UInt8 :=
  let key := HmacKey.ofBytes hash password
  (outputBlocks key salt iterations ((size + hash.size - 1) / hash.size) 1).take size

end Pbkdf2
end LoginGate
